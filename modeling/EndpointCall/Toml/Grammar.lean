import EndpointCall.Toml.Scalar
/-! Keys and values of TOML. -/
namespace EndpointCall.Toml

open Reader

def nestingLimit : Nat := 80

def simpleKey : Reader Key := fun c =>
  match c.rest.head? with
  | none => .error { offset := c.pos }
  | some b =>
    let name : Reader String :=
      if b == 34 then basicString
      else if b == 39 then literalString
      else map textOf (takeSome isBareKeyByte)
    match withSpan name c with
    | .ok ((n, sp), c') => .ok (⟨n, sp⟩, c')
    | .error f => .error f

def keyPart : Reader Key := do
  let _ ← blanks
  let k ← simpleKey
  let _ ← blanks
  pure k

def key : Reader (List Key) := fun c =>
  match label (sepBy1 keyPart (byte (ascii '.'))) "key" c with
  | .error f => .error f
  | .ok (ks, c') =>
    if ks.length < nestingLimit then .ok (ks, c')
    else .error { offset := c.pos, cause := some (Clash.message .recursionLimit) }

abbrev InlineEntries := List (Key × Value × Option Span)

def inlinePut (full : List Key) (k : Key) (v : Value) (sp : Span) :
    InlineEntries → Bool → List String → List Key → Except Clash InlineEntries
  | es, dotted, _, [] =>
    if dotted == full.isEmpty then .error (.duplicateKey k.name none)
    else match es.find? (·.1.name == k.name) with
      | some (k0, _) => .error (.duplicateKey k0.name none)
      | none => .ok (es ++ [(k, v, some sp)])
  | es, _, seen, p :: rest =>
    let names := seen ++ [p.name]
    match es.find? (·.1.name == p.name) with
    | none => do
      let sub ← inlinePut full k v sp [] true names rest
      pure (es ++ [(p, .inlineTable sub true, none)])
    | some (_, .inlineTable sub subDotted, _) =>
      if !subDotted then .error (.duplicateKey p.name none)
      else do
        let sub' ← inlinePut full k v sp sub true names rest
        pure (es.map fun e => if e.1.name == p.name then (e.1, .inlineTable sub' true, e.2.2) else e)
    | some (_, other, _) => .error (.extendNonTable names other.typeName)

def inlineTableOf (pairs : List (List Key × Value × Span)) : Except String Value :=
  let step (acc : Except Clash InlineEntries) (pr : List Key × Value × Span) :
      Except Clash InlineEntries :=
    acc.bind fun es =>
      match pr.1.reverse with
      | [] => .ok es
      | k :: revPath => inlinePut revPath.reverse k pr.2.1 pr.2.2 es false [] revPath.reverse
  match pairs.foldl step (.ok []) with
  | .ok es => .ok (.inlineTable es false)
  | .error c => .error c.message

def asString {α : Type} (p : Reader α) : Reader α :=
  expecting (label p "string") [.char '"', .char '\'']

def arrayGap : Reader Unit := fun c => blankLines c

def arrayOf (item : Option (Reader (Value × Span))) : Reader Value :=
  match item with
  | none => cut (failWith (Clash.message .recursionLimit))
  | some v => do
    byte (ascii '[')
    let items ← cut (do
      let xs ← opt (do
        let xs ← sepBy1 (do arrayGap; let x ← v; arrayGap; pure x) (byte (ascii ','))
        let _ ← opt (byte (ascii ','))
        pure xs)
      arrayGap
      pure (xs.getD []))
    expecting (label (cut (byte (ascii ']'))) "array") [.char ']']
    pure (.array items)

def inlinePair (v : Reader (Value × Span)) : Reader (List Key × Value × Span) := do
  let path ← key
  let (x, sp) ← cut (do
    let _ ← expecting (oneOf (· == ascii '=')) [.char '.', .char '=']
    let _ ← blanks
    let x ← v
    let _ ← blanks
    pure x)
  pure (path, x, sp)

/-- An inline table; without nesting budget the opening brace itself is refused. -/
def inlineTable (item : Option (Reader (Value × Span))) : Reader Value :=
  match item with
  | none => cut (failWith (Clash.message .recursionLimit))
  | some v => do
    byte (ascii '{')
    let t ← cut (check (do
      let pairs ← sepBy (inlinePair v) (byte (ascii ','))
      let _ ← blanks
      pure pairs) inlineTableOf)
    expecting (label (cut (byte (ascii '}'))) "inline table") [.char '}']
    pure t

def valueBy (item : Option (Reader (Value × Span))) : Reader Value := fun c =>
  match c.rest.head? with
  | none => .error { offset := c.pos }
  | some b =>
    let p : Reader Value :=
      if b == 34 || b == 39 then map Value.string string
      else if b == 91 then arrayOf item
      else if b == 123 then inlineTable item
      else if b == 43 || b == 45 || isDigit b then
        orElse (map Value.datetime datetime)
          (orElse (map Value.float float) (map Value.integer integer))
      else if b == 95 then expecting (map Value.integer integer) [.description "leading digit"]
      else if b == 46 then expecting (map Value.float float) [.description "leading digit"]
      else if b == 116 then asString (map Value.boolean trueWord)
      else if b == 102 then asString (map Value.boolean falseWord)
      else if b == 105 then asString (map Value.float infinity)
      else if b == 110 then asString (map Value.float notANumber)
      else asString fail
    p c

/-- A value with its span; `depth` more levels of arrays and inline tables may open inside it. -/
def value : Nat → Reader (Value × Span)
  | 0 => withSpan (valueBy none)
  | depth + 1 => withSpan (valueBy (some (value depth)))

def topValue : Reader (Value × Span) := value (nestingLimit - 1)

end EndpointCall.Toml
