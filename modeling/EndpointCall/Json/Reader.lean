import EndpointCall.Json.Value
import EndpointCall.Text.Utf8
/-! Reading JSON text from bytes. -/
namespace EndpointCall.Json

inductive ReadFault where
  | eofInList
  | eofInObject
  | eofInString
  | eofInValue
  | expectedColon
  | expectedListCommaOrEnd
  | expectedObjectCommaOrEnd
  | expectedIdent
  | expectedValue
  | invalidEscape
  | invalidNumber
  | numberOutOfRange
  | invalidCodePoint
  | controlCharacter
  | keyMustBeString
  | loneSurrogate
  | trailingComma
  | trailingCharacters
  | endOfHexEscape
  | recursionLimit
  deriving Repr, BEq

def ReadFault.message : ReadFault → String
  | .eofInList => "EOF while parsing a list"
  | .eofInObject => "EOF while parsing an object"
  | .eofInString => "EOF while parsing a string"
  | .eofInValue => "EOF while parsing a value"
  | .expectedColon => "expected `:`"
  | .expectedListCommaOrEnd => "expected `,` or `]`"
  | .expectedObjectCommaOrEnd => "expected `,` or `\x7d`"
  | .expectedIdent => "expected ident"
  | .expectedValue => "expected value"
  | .invalidEscape => "invalid escape"
  | .invalidNumber => "invalid number"
  | .numberOutOfRange => "number out of range"
  | .invalidCodePoint => "invalid unicode code point"
  | .controlCharacter => "control character (\\u0000-\\u001F) found while parsing a string"
  | .keyMustBeString => "key must be a string"
  | .loneSurrogate => "lone leading surrogate in hex escape"
  | .trailingComma => "trailing comma"
  | .trailingCharacters => "trailing characters"
  | .endOfHexEscape => "unexpected end of hex escape"
  | .recursionLimit => "recursion limit exceeded"

structure Failure where
  fault : ReadFault
  offset : Nat

/-- A fault with its line and column. -/
structure ReadError where
  fault : ReadFault
  line : Nat
  column : Nat
  deriving Repr, BEq

def ReadError.message (e : ReadError) : String :=
  s!"{e.fault.message} at line {e.line} column {e.column}"

def lineColumn (bs : List UInt8) (offset : Nat) : Nat × Nat :=
  (bs.take offset).foldl (fun lc b => if b = 10 then (lc.1 + 1, 0) else (lc.1, lc.2 + 1)) (1, 0)

abbrev Reading (α : Type) := Except Failure (α × List UInt8 × Nat)

def faultAhead {α : Type} (f : ReadFault) (rest : List UInt8) (pos : Nat) : Except Failure α :=
  .error ⟨f, if rest.isEmpty then pos else pos + 1⟩

def faultHere {α : Type} (f : ReadFault) (pos : Nat) : Except Failure α := .error ⟨f, pos⟩

def skipBlank : List UInt8 → Nat → List UInt8 × Nat
  | b :: r, p => if b = 32 || b = 10 || b = 9 || b = 13 then skipBlank r (p + 1) else (b :: r, p)
  | [], p => ([], p)

section Numbers

def isDigit (b : UInt8) : Bool := 48 ≤ b && b ≤ 57

def digitOf (b : UInt8) : Nat := b.toNat - 48

def sigMax : Nat := 18446744073709551615

def sigOverflows (sig d : Nat) : Bool :=
  sig ≥ sigMax / 10 && (sig > sigMax / 10 || d > sigMax % 10)

def expOverflows (e d : Nat) : Bool := e ≥ 214748364 && (e > 214748364 || d > 7)

def nearestFloat (n : Nat) : Float :=
  if n < Nat.pow 2 53 then n.toUInt64.toFloat
  else
    let shift := n.log2 + 1 - 53
    let q := n >>> shift
    let r := n % Nat.pow 2 shift
    let half := Nat.pow 2 (shift - 1)
    let q' := if r > half || (r == half && q % 2 == 1) then q + 1 else q
    q'.toUInt64.toFloat.scaleB shift

def pow10 (k : Nat) : Float := nearestFloat (Nat.pow 10 k)

def scalePow10 (f : Float) : Int → Nat → Option Float
  | _, 0 => some f
  | e, fuel + 1 =>
    if e.natAbs ≤ 308 then
      if e ≥ 0 then
        let g := f * pow10 e.natAbs
        if g.isInf then none else some g
      else some (f / pow10 e.natAbs)
    else if f == 0.0 then some f
    else if e ≥ 0 then none
    else scalePow10 (f / pow10 308) (e + 308) fuel

def floatOfParts (positive : Bool) (sig : Nat) (e : Int) (pos : Nat) : Except Failure Float :=
  match scalePow10 sig.toUInt64.toFloat e 8 with
  | some f => .ok (if positive then f else -f)
  | none => faultHere .numberOutOfRange pos

def skipDigits : List UInt8 → Nat → List UInt8 × Nat
  | b :: r, p => if isDigit b then skipDigits r (p + 1) else (b :: r, p)
  | [], p => ([], p)

def exponentDigits (positive : Bool) (sig : Nat) (start : Int) (up : Bool) (e : Nat) :
    List UInt8 → Nat → Reading Float
  | b :: r, p =>
    if isDigit b then
      if expOverflows e (digitOf b) then
        if sig ≠ 0 && up then faultHere .numberOutOfRange (p + 1)
        else
          let (r', p') := skipDigits r (p + 1)
          .ok (if positive then 0.0 else -0.0, r', p')
      else exponentDigits positive sig start up (e * 10 + digitOf b) r (p + 1)
    else
      let fe := if up then start + e else start - e
      (floatOfParts positive sig fe p).map fun f => (f, b :: r, p)
  | [], p =>
    let fe := if up then start + e else start - e
    (floatOfParts positive sig fe p).map fun f => (f, [], p)

def exponent (positive : Bool) (sig : Nat) (start : Int) (rest : List UInt8) (pos : Nat) :
    Reading Float :=
  let (up, rest, pos) := match rest.drop 1 with
    | 43 :: r => (true, r, pos + 2)
    | 45 :: r => (false, r, pos + 2)
    | r => (true, r, pos + 1)
  match rest with
  | [] => faultHere .eofInValue pos
  | b :: r =>
    if isDigit b then exponentDigits positive sig start up (digitOf b) r (pos + 1)
    else faultHere .invalidNumber (pos + 1)

def isExpMark (b : UInt8) : Bool := b = 101 || b = 69

def fractionPastMax (positive : Bool) (sig : Nat) (e : Int) (rest : List UInt8) (pos : Nat) :
    Reading Float :=
  let (rest, pos) := skipDigits rest pos
  match rest with
  | b :: _ =>
    if isExpMark b then exponent positive sig e rest pos
    else (floatOfParts positive sig e pos).map fun f => (f, rest, pos)
  | [] => (floatOfParts positive sig e pos).map fun f => (f, [], pos)

def fractionDigits (positive : Bool) (sig : Nat) (before : Int) (after : Nat) :
    List UInt8 → Nat → Reading Float
  | b :: r, p =>
    if isDigit b then
      if sigOverflows sig (digitOf b) then
        fractionPastMax positive sig (before - after) (b :: r) p
      else fractionDigits positive (sig * 10 + digitOf b) before (after + 1) r (p + 1)
    else if after = 0 then faultAhead .invalidNumber (b :: r) p
    else if isExpMark b then exponent positive sig (before - after) (b :: r) p
    else (floatOfParts positive sig (before - after) p).map fun f => (f, b :: r, p)
  | [], p =>
    if after = 0 then faultAhead .eofInValue [] p
    else (floatOfParts positive sig (before - after) p).map fun f => (f, [], p)

def integerPastMax (positive : Bool) (sig : Nat) (e : Nat) : List UInt8 → Nat → Reading Float
  | b :: r, p =>
    if isDigit b then integerPastMax positive sig (e + 1) r (p + 1)
    else if b = 46 then fractionDigits positive sig e 0 r (p + 1)
    else if isExpMark b then exponent positive sig e (b :: r) p
    else (floatOfParts positive sig e p).map fun f => (f, b :: r, p)
  | [], p => (floatOfParts positive sig e p).map fun f => (f, [], p)

def afterInteger (positive : Bool) (sig : Nat) (rest : List UInt8) (pos : Nat) : Reading Number :=
  match rest with
  | b :: r =>
    if b = 46 then
      (fractionDigits positive sig 0 0 r (pos + 1)).map fun (f, r', p') => (.float f, r', p')
    else if isExpMark b then
      (exponent positive sig 0 rest pos).map fun (f, r', p') => (.float f, r', p')
    else .ok (integerValue positive sig, rest, pos)
  | [] => .ok (integerValue positive sig, [], pos)
where
  integerValue (positive : Bool) (sig : Nat) : Number :=
    if positive then .int sig
    else if sig = 0 || sig > Nat.pow 2 63 then .float (-(sig.toUInt64.toFloat))
    else .int (-(sig : Int))

def integerDigits (positive : Bool) (sig : Nat) : List UInt8 → Nat → Reading Number
  | b :: r, p =>
    if isDigit b then
      if sigOverflows sig (digitOf b) then
        (integerPastMax positive sig 0 (b :: r) p).map fun (f, r', p') => (.float f, r', p')
      else integerDigits positive (sig * 10 + digitOf b) r (p + 1)
    else afterInteger positive sig (b :: r) p
  | [], p => afterInteger positive sig [] p

/-- A number from its first digit on (after the minus sign of a negative one). -/
def number (positive : Bool) (rest : List UInt8) (pos : Nat) : Reading Number :=
  match rest with
  | [] => faultHere .eofInValue pos
  | b :: r =>
    if b = 48 then
      match r with
      | c :: _ => if isDigit c then faultAhead .invalidNumber r (pos + 1)
                  else afterInteger positive 0 r (pos + 1)
      | [] => afterInteger positive 0 [] (pos + 1)
    else if isDigit b then integerDigits positive (digitOf b) r (pos + 1)
    else faultHere .invalidNumber (pos + 1)

end Numbers

section Strings

def hexValue (b : UInt8) : Option Nat :=
  if 48 ≤ b && b ≤ 57 then some (b.toNat - 48)
  else if 97 ≤ b && b ≤ 102 then some (b.toNat - 87)
  else if 65 ≤ b && b ≤ 70 then some (b.toNat - 55)
  else none

def hex4 (rest : List UInt8) (pos : Nat) : Reading Nat :=
  match rest with
  | a :: b :: c :: d :: r =>
    match hexValue a, hexValue b, hexValue c, hexValue d with
    | some a, some b, some c, some d => .ok (((a * 16 + b) * 16 + c) * 16 + d, r, pos + 4)
    | _, _, _, _ => faultHere .invalidEscape (pos + 4)
  | r => faultHere .eofInString (pos + r.length)

def codePointBytes (n : Nat) : List UInt8 := Utf8.encode (String.singleton (Char.ofNat n))

def unicodeEscape (rest : List UInt8) (pos : Nat) : Reading (List UInt8) :=
  match hex4 rest pos with
  | .error e => .error e
  | .ok (n, rest, pos) =>
    if 0xDC00 ≤ n && n ≤ 0xDFFF then faultHere .loneSurrogate pos
    else if n < 0xD800 || n > 0xDBFF then .ok (codePointBytes n, rest, pos)
    else
      match rest with
      | [] => faultHere .eofInString pos
      | 92 :: r =>
        match r with
        | [] => faultHere .eofInString (pos + 1)
        | 117 :: r' =>
          match hex4 r' (pos + 2) with
          | .error e => .error e
          | .ok (n2, rest, pos) =>
            if 0xDC00 ≤ n2 && n2 ≤ 0xDFFF then
              .ok (codePointBytes ((n - 0xD800) * 1024 + (n2 - 0xDC00) + 0x10000), rest, pos)
            else faultHere .loneSurrogate pos
        | _ :: _ => faultHere .endOfHexEscape (pos + 2)
      | _ :: _ => faultHere .endOfHexEscape (pos + 1)

def contentFault (content : List UInt8) (close : Nat) : Option Failure :=
  match Utf8.decode content with
  | .ok _ => none
  | .error f => some ⟨.invalidCodePoint, close + 1 - (content.length - f.validUpTo)⟩

def stringBody : Nat → List UInt8 → List UInt8 → Nat → Reading String
  | 0, _, _, pos => faultHere .eofInString pos
  | fuel + 1, acc, rest, pos =>
    match rest with
    | [] => faultHere .eofInString pos
    | b :: r =>
      if b = 34 then
        match Utf8.decode acc.reverse with
        | .ok s => .ok (s, r, pos + 1)
        | .error _ =>
          match contentFault acc.reverse pos with
          | some f => .error f
          | none => faultHere .invalidCodePoint (pos + 1)
      else if b = 92 then
        match r with
        | [] => faultHere .eofInString (pos + 1)
        | c :: r' =>
          let simple : Option UInt8 :=
            if c = 34 then some 34 else if c = 92 then some 92 else if c = 47 then some 47
            else if c = 98 then some 8 else if c = 102 then some 12 else if c = 110 then some 10
            else if c = 114 then some 13 else if c = 116 then some 9 else none
          match simple with
          | some x => stringBody fuel (x :: acc) r' (pos + 2)
          | none =>
            if c = 117 then
              match unicodeEscape r' (pos + 2) with
              | .ok (bs, r'', p) => stringBody fuel (bs.reverse ++ acc) r'' p
              | .error e => .error e
            else faultHere .invalidEscape (pos + 2)
      else if b < 32 then faultHere .controlCharacter (pos + 1)
      else stringBody fuel (b :: acc) r (pos + 1)

def stringAt (rest : List UInt8) (pos : Nat) : Reading String :=
  stringBody (rest.length + 1) [] rest pos

end Strings

def literal (word : List UInt8) (v : Json) : List UInt8 → Nat → Reading Json
  | r, p =>
    match word, r with
    | [], r => .ok (v, r, p)
    | _ :: _, [] => faultHere .eofInValue p
    | w :: ws, b :: r => if w = b then literal ws v r (p + 1) else faultHere .expectedIdent (p + 1)

mutual

def value : Nat → Nat → List UInt8 → Nat → Reading Json
  | 0, _, _, pos => faultHere .eofInValue pos
  | fuel + 1, depth, rest, pos =>
    let (rest, pos) := skipBlank rest pos
    match rest with
    | [] => faultHere .eofInValue pos
    | b :: r =>
      if b = 110 then literal [117, 108, 108] .null r (pos + 1)
      else if b = 116 then literal [114, 117, 101] (.bool true) r (pos + 1)
      else if b = 102 then literal [97, 108, 115, 101] (.bool false) r (pos + 1)
      else if b = 45 then (number false r (pos + 1)).map fun (n, r', p') => (.num n, r', p')
      else if isDigit b then (number true rest pos).map fun (n, r', p') => (.num n, r', p')
      else if b = 34 then (stringAt r (pos + 1)).map
        fun (s, r', p') => (.str s, r', p')
      else if b = 91 then
        if depth ≤ 1 then faultAhead .recursionLimit rest pos
        else items fuel (depth - 1) true [] r (pos + 1)
      else if b = 123 then
        if depth ≤ 1 then faultAhead .recursionLimit rest pos
        else entries fuel (depth - 1) true [] r (pos + 1)
      else faultAhead .expectedValue rest pos

def items : Nat → Nat → Bool → List Json → List UInt8 → Nat → Reading Json
  | 0, _, _, _, _, pos => faultHere .eofInList pos
  | fuel + 1, depth, first, acc, rest, pos =>
    let (rest, pos) := skipBlank rest pos
    match rest with
    | [] => faultAhead .eofInList [] pos
    | b :: r =>
      if b = 93 then .ok (.arr acc.reverse, r, pos + 1)
      else if b = 44 && !first then
        let (r', p') := skipBlank r (pos + 1)
        match r' with
        | [] => faultAhead .eofInValue [] p'
        | c :: _ =>
          if c = 93 then faultAhead .trailingComma r' p'
          else match value fuel depth r' p' with
            | .ok (v, r'', p'') => items fuel depth false (v :: acc) r'' p''
            | .error e => .error e
      else if first then
        match value fuel depth rest pos with
        | .ok (v, r'', p'') => items fuel depth false (v :: acc) r'' p''
        | .error e => .error e
      else faultAhead .expectedListCommaOrEnd rest pos

def entries : Nat → Nat → Bool → List (String × Json) → List UInt8 → Nat → Reading Json
  | 0, _, _, _, _, pos => faultHere .eofInObject pos
  | fuel + 1, depth, first, acc, rest, pos =>
    let (rest, pos) := skipBlank rest pos
    match rest with
    | [] => faultAhead .eofInObject [] pos
    | b :: r =>
      if b = 125 then .ok (.obj acc, r, pos + 1)
      else if b = 44 && !first then
        let (r', p') := skipBlank r (pos + 1)
        match r' with
        | [] => faultAhead .eofInValue [] p'
        | c :: r'' =>
          if c = 34 then entry fuel depth acc r'' (p' + 1)
          else if c = 125 then faultAhead .trailingComma r' p'
          else faultAhead .keyMustBeString r' p'
      else if first then
        if b = 34 then entry fuel depth acc r (pos + 1)
        else faultAhead .keyMustBeString rest pos
      else faultAhead .expectedObjectCommaOrEnd rest pos

def entry : Nat → Nat → List (String × Json) → List UInt8 → Nat → Reading Json
  | 0, _, _, _, pos => faultHere .eofInObject pos
  | fuel + 1, depth, acc, rest, pos =>
    match stringAt rest pos with
    | .error e => .error e
    | .ok (k, r, p) =>
      let (r, p) := skipBlank r p
      match r with
      | [] => faultAhead .eofInObject [] p
      | c :: r' =>
        if c = 58 then
          match value fuel depth r' (p + 1) with
          | .ok (v, r'', p'') => entries fuel depth false (insertField k v acc) r'' p''
          | .error e => .error e
        else faultAhead .expectedColon r p

end

/-- Reads one JSON value from bytes; only blanks may follow it. -/
def read (bs : List UInt8) : Except ReadError Json :=
  let result : Except Failure Json := do
    let (v, rest, pos) ← value (2 * bs.length + 2) 128 bs 0
    let (rest, pos) := skipBlank rest pos
    match rest with
    | [] => pure v
    | _ :: _ => faultAhead .trailingCharacters rest pos
  match result with
  | .ok v => .ok v
  | .error f =>
    let (l, c) := lineColumn bs f.offset
    .error ⟨f.fault, l, c⟩

def readText (s : String) : Except ReadError Json := read (Utf8.encode s)

end EndpointCall.Json
