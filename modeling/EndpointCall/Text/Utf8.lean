/-! UTF-8 byte strings, decoded strictly or lossily. -/
namespace EndpointCall.Utf8

inductive Piece where
  | char (c : Char)
  | invalid (len : Nat)
  | truncated (len : Nat)
  deriving Repr, BEq

def isCont (b : UInt8) : Bool := 0x80 ≤ b && b ≤ 0xBF

def width (b : UInt8) : Nat :=
  if b < 0x80 then 1
  else if 0xC2 ≤ b && b ≤ 0xDF then 2
  else if 0xE0 ≤ b && b ≤ 0xEF then 3
  else if 0xF0 ≤ b && b ≤ 0xF4 then 4
  else 0

def secondOk (first b : UInt8) : Bool :=
  if first = 0xE0 then 0xA0 ≤ b && b ≤ 0xBF
  else if first = 0xED then 0x80 ≤ b && b ≤ 0x9F
  else if first = 0xF0 then 0x90 ≤ b && b ≤ 0xBF
  else if first = 0xF4 then 0x80 ≤ b && b ≤ 0x8F
  else isCont b

def low (b : UInt8) (keep : UInt8) : Nat := (b &&& keep).toNat

/-- Cuts a byte string into pieces. -/
def pieces : List UInt8 → List Piece
  | [] => []
  | b :: r =>
    if width b = 1 then .char (Char.ofNat b.toNat) :: pieces r
    else if width b = 2 then
      match hr : r with
      | [] => [.truncated 1]
      | c :: r' =>
        if isCont c then .char (Char.ofNat (low b 0x1F * 64 + low c 0x3F)) :: pieces r'
        else .invalid 1 :: pieces r
    else if width b = 3 then
      match hr : r with
      | [] => [.truncated 1]
      | c :: r' =>
        if secondOk b c then
          match hr' : r' with
          | [] => [.truncated 2]
          | d :: r'' =>
            if isCont d then
              .char (Char.ofNat (low b 0x0F * 4096 + low c 0x3F * 64 + low d 0x3F)) :: pieces r''
            else .invalid 2 :: pieces r'
        else .invalid 1 :: pieces r
    else if width b = 4 then
      match hr : r with
      | [] => [.truncated 1]
      | c :: r' =>
        if secondOk b c then
          match hr' : r' with
          | [] => [.truncated 2]
          | d :: r'' =>
            if isCont d then
              match hr'' : r'' with
              | [] => [.truncated 3]
              | e :: r''' =>
                if isCont e then
                  .char (Char.ofNat (low b 0x07 * 262144 + low c 0x3F * 4096 + low d 0x3F * 64
                    + low e 0x3F)) :: pieces r'''
                else .invalid 3 :: pieces r''
            else .invalid 2 :: pieces r'
        else .invalid 1 :: pieces r
    else .invalid 1 :: pieces r
termination_by bs => bs.length
decreasing_by all_goals simp_all <;> omega

structure Fault where
  validUpTo : Nat
  invalidLen : Option Nat
  deriving Repr, BEq

def Fault.message (f : Fault) : String :=
  match f.invalidLen with
  | some n => s!"invalid utf-8 sequence of {n} bytes from index {f.validUpTo}"
  | none => s!"incomplete utf-8 byte sequence from index {f.validUpTo}"

def decodePieces (acc : List Char) (pos : Nat) : List Piece → Except Fault String
  | [] => .ok (String.ofList acc.reverse)
  | .char c :: rest => decodePieces (c :: acc) (pos + c.utf8Size) rest
  | .invalid n :: _ => .error ⟨pos, some n⟩
  | .truncated _ :: _ => .error ⟨pos, none⟩

/-- The text of well-formed UTF-8 bytes, or the first fault. -/
def decode (bs : List UInt8) : Except Fault String := decodePieces [] 0 (pieces bs)

def decodeLossy (bs : List UInt8) : String :=
  String.ofList ((pieces bs).map fun
    | .char c => c
    | _ => '\uFFFD')

def isValid (bs : List UInt8) : Bool :=
  match decode bs with
  | .ok _ => true
  | .error _ => false

def encode (s : String) : List UInt8 := s.toUTF8.toList

end EndpointCall.Utf8
