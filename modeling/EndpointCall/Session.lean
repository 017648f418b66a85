/-! Server sessions, named by identifiers of 32 lowercase hex digits. -/
namespace EndpointCall

structure SessionId where
  id : String
  deriving Repr, BEq, DecidableEq, Inhabited

namespace SessionId

def cookieName : String := "SessionID"

def display (s : SessionId) : String := s.id

def hexDigit (n : Nat) : Char := if n < 10 then Char.ofNat (48 + n) else Char.ofNat (87 + n)

def hexWidth : Nat → Nat → List Char
  | 0, _ => []
  | width + 1, n => hexWidth width (n / 16) ++ [hexDigit (n % 16)]

def isHex32 (s : SessionId) : Bool :=
  s.id.length = 32 && s.id.all fun c => ('0' ≤ c && c ≤ '9') || ('a' ≤ c && c ≤ 'f')

end SessionId

structure SessionSource where
  drawn : Nat := 0
  deriving Repr

/-- An odd multiplier is a bijection modulo `2^128`: no two draws give one identifier. -/
def SessionSource.next (src : SessionSource) : SessionId × SessionSource :=
  let mixed := ((src.drawn + 1) * 0x9E3779B97F4A7C15F39CC0605CEDC835) % Nat.pow 2 128
  (⟨String.ofList (SessionId.hexWidth 32 mixed)⟩, ⟨src.drawn + 1⟩)

end EndpointCall
