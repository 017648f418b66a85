import EndpointCall.Toml.Cursor
/-! The lexical pieces of TOML. -/
namespace EndpointCall.Toml

open Reader

def ascii (c : Char) : UInt8 := c.toNat.toUInt8

def isBlank (b : UInt8) : Bool := b == 32 || b == 9

def isCommentByte (b : UInt8) : Bool := b == 9 || (32 ≤ b && b ≤ 126) || 128 ≤ b

def isDigit (b : UInt8) : Bool := 48 ≤ b && b ≤ 57

def isHexDigit (b : UInt8) : Bool := isDigit b || (65 ≤ b && b ≤ 70) || (97 ≤ b && b ≤ 102)

def isBareKeyByte (b : UInt8) : Bool :=
  isDigit b || (65 ≤ b && b ≤ 90) || (97 ≤ b && b ≤ 122) || b == 45 || b == 95

def blanks : Reader (List UInt8) := takeMany isBlank

/-- A newline: LF, or CR then LF. -/
def newline : Reader Unit := do
  let b ← any
  if b == 10 then pure ()
  else if b == 13 then byte 10
  else fail

def comment : Reader Unit := do
  byte (ascii '#')
  let _ ← takeMany isCommentByte

def lineEnding : Reader Unit := newline.orElse eof

def lineTrailing : Reader Unit := do
  let _ ← blanks
  let _ ← opt comment
  lineEnding

def blankLines (c : Cursor) : Except Fault (Unit × Cursor) :=
  match blanks c with
  | .error f => .error f
  | .ok (_, c1) =>
    let step : Option (Reader Unit) := match c1.rest.head? with
      | some 35 => some (do comment; newline)
      | some 10 | some 13 => some newline
      | _ => none
    match step with
    | none => .ok ((), c1)
    | some r =>
      match r c1 with
      | .error f => .error f
      | .ok (_, c2) => if c2.rest.length < c.rest.length then blankLines c2 else .ok ((), c2)
termination_by c.rest.length

def blanksAndNewlines : Reader Unit := fun c =>
  (many (newline.orElse ((takeSome isBlank).map fun _ => ())) c).map fun (_, c') => ((), c')

end EndpointCall.Toml
