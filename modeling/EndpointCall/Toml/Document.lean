import EndpointCall.Toml.Grammar
import EndpointCall.Toml.Write
/-! TOML documents built into one root table. -/
namespace EndpointCall.Toml

open Reader

/-- A document being built, with the table that pairs go into now. -/
structure Builder where
  root : Table
  current : Table
  path : List Key
  isArray : Bool

def Builder.init : Builder := ⟨Table.empty false false, .mk [] false false (some ⟨0, 0⟩), [], false⟩

def descend {α : Type} (dotted : Bool) (f : Table → Except Clash (Table × α)) :
    Table → List String → List Key → Except Clash (Table × α)
  | t, _, [] => f t
  | t, seen, k :: rest =>
    let names := seen ++ [k.name]
    match t.get? k.name with
    | none => do
      let (sub, a) ← descend dotted f (Table.empty true dotted) names rest
      pure (t.set k (.table sub), a)
    | some (_, .value v _) => .error (.extendNonTable names v.typeName)
    | some (k0, .arrayOfTables ts) =>
      match ts.getLast? with
      | none => .error (.duplicateKey k.name none)
      | some last => do
        let (last', a) ← descend dotted f last names rest
        pure (t.set k0 (.arrayOfTables (ts.dropLast ++ [last'])), a)
    | some (k0, .table sub) =>
      if dotted && !sub.implicit then .error (.duplicateKey k.name none)
      else do
        let (sub', a) ← descend dotted f sub names rest
        pure (t.set k0 (.table sub'), a)

def headerClash (path : List Key) : Clash :=
  match path.getLast? with
  | some k => .duplicateKey (quoteKey k.name) (some (path.dropLast.map (·.name)))
  | none => .duplicateKey "" (some [])

namespace Builder

def addPair (b : Builder) (path : List Key) (k : Key) (v : Value) (sp : Span) :
    Except Clash Builder := do
  let cur := match b.current.span with
    | some s => Table.mk b.current.entries b.current.implicit b.current.dotted (some ⟨s.start, sp.stop⟩)
    | none => b.current
  let (cur', _) ← descend true (fun t =>
    if t.dotted == path.isEmpty then .error (.duplicateKey k.name none)
    else match t.get? k.name with
      | some (k0, _) => .error (.duplicateKey k0.name (some (b.path.map (·.name))))
      | none => .ok (t.set k (.value v sp), ())) cur [] path
  pure { b with current := cur' }

def close (b : Builder) : Except Clash Builder := do
  let table := b.current
  let path := b.path
  let b := { b with current := Table.empty false false, path := [] }
  match path.getLast? with
  | none => pure { b with root := table }
  | some last =>
    let (root, _) ← descend false (fun parent =>
      match parent.get? last.name, b.isArray with
      | none, true => .ok (parent.set last (.arrayOfTables [table]), ())
      | some (k0, .arrayOfTables ts), true => .ok (parent.set k0 (.arrayOfTables (ts ++ [table])), ())
      | some (k0, .table t), false =>
        if t.implicit then .ok (parent.set k0 (.table table), ()) else .error (headerClash path)
      | none, false => .ok (parent.set last (.table table), ())
      | _, _ => .error (headerClash path)) b.root [] path.dropLast
    pure { b with root := root }

def openTable (b : Builder) (path : List Key) (span : Span) : Except Clash Builder := do
  let b ← b.close
  match path.getLast? with
  | none => pure b
  | some last =>
    let (root, taken) ← descend false (fun parent =>
      match parent.get? last.name with
      | none => .ok (parent, none)
      | some (_, .table t) =>
        if t.implicit && !t.dotted then .ok (parent.erase last.name, some t)
        else .error (headerClash path)
      | some _ => .error (headerClash path)) b.root [] path.dropLast
    let entries := (taken.map (·.entries)).getD []
    pure { root := root, current := .mk entries false false (some span), path := path,
           isArray := false }

def openArrayTable (b : Builder) (path : List Key) (span : Span) : Except Clash Builder := do
  let b ← b.close
  match path.getLast? with
  | none => pure b
  | some last =>
    let (root, _) ← descend false (fun parent =>
      match parent.get? last.name with
      | none => .ok (parent.set last (.arrayOfTables []), ())
      | some (_, .arrayOfTables _) => .ok (parent, ())
      | some _ => .error (headerClash path)) b.root [] path.dropLast
    pure { root := root, current := .mk [] false false (some span), path := path, isArray := true }

end Builder

def header : Reader (List Key × Span × Bool) := fun c =>
  let body (double : Bool) : Reader (List Key × Span × Bool) := do
    let (path, sp) ← withSpan (do
      tag (if double then [91, 91] else [91])
      let path ← cut key
      let _ ← expecting (cut (tag (if double then [93, 93] else [93])))
        [.char '.', .literal (if double then "]]" else "]")]
      pure path)
    expecting (cut lineTrailing) [.char '\n', .char '#']
    pure (path, sp, double)
  match c.rest with
  | 91 :: 91 :: _ => body true c
  | _ :: _ :: _ => body false c
  | _ => .error { offset := c.pos }

def pairLine : Reader (List Key × Value × Span) := do
  let path ← key
  let (v, sp) ← cut (do
    let _ ← expecting (oneOf (· == ascii '=')) [.char '.', .char '=']
    let _ ← blanks
    let x ← topValue
    expecting lineTrailing [.char '\n', .char '#']
    pure x)
  pure (path, v, sp)

def building {α : Type} (p : Reader α) (f : α → Except Clash Builder) : Cursor →
    Except Fault (Builder × Cursor) := fun c =>
  match p c with
  | .error e => .error e
  | .ok (a, c') => match f a with
    | .ok b => .ok (b, c')
    | .error cl => .error { offset := c.pos, cause := some cl.message }

def lines (b : Builder) (c : Cursor) : Except Fault (Builder × Cursor) :=
  let step : Option (Except Fault (Builder × Cursor)) := match c.rest.head? with
    | none => none
    | some 35 => some (match cut (do comment; lineEnding) c with
        | .ok (_, c') => .ok (b, c')
        | .error e => .error e)
    | some 91 =>
      some (match building header (fun (path, sp, double) =>
          if double then b.openArrayTable path sp else b.openTable path sp) c with
        | .ok r => .ok r
        | .error e => .error (e.add (.label "table header")).cut)
    | some 10 | some 13 => some (match newline c with
        | .ok (_, c') => .ok (b, c')
        | .error e => .error e)
    | some _ => some (match building pairLine (fun (path, v, sp) =>
          match path.reverse with
          | k :: revPath => b.addPair revPath.reverse k v sp
          | [] => .ok b) c with
        | .ok r => .ok r
        | .error e => .error e.cut)
  match step with
  | none => .ok (b, c)
  | some (.error e) => if e.final then .error e else .ok (b, c)
  | some (.ok (b', c1)) =>
    match blanks c1 with
    | .ok (_, c2) => if c2.rest.length < c.rest.length then lines b' c2 else .ok (b', c2)
    | .error e => .error e
termination_by c.rest.length

/-- Reads a document into its root table. -/
def parse (src : String) : Except Error Table :=
  let bytes := src.toUTF8.toList
  let c0 : Cursor := ⟨bytes, 0⟩
  let c1 : Cursor := if [0xEF, 0xBB, 0xBF].isPrefixOf bytes then ⟨bytes.drop 3, 3⟩ else c0
  let fault (f : Fault) : Except Error Table := .error (f.toError bytes)
  match blanks c1 with
  | .error f => fault f
  | .ok (_, c2) =>
    match lines Builder.init c2 with
    | .error f => fault f
    | .ok (b, c3) =>
      if !c3.rest.isEmpty then fault { offset := c3.pos }
      else match b.close with
        | .ok b => .ok b.root
        | .error cl => .error ⟨cl.message, none⟩

end EndpointCall.Toml
