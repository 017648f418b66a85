/-! Shortest decimal digits of a double that round back to it. -/
namespace EndpointCall.Decimal

structure Digits where
  digits : Nat
  exp10 : Int
  deriving Repr, BEq

inductive Tie where
  | toEven
  | up
  deriving Repr, BEq

structure Binary where
  mantissa : Nat
  exp2 : Int
  narrowBelow : Bool

def Binary.ofBits (bits : UInt64) : Binary :=
  let biased := ((bits >>> 52) &&& 0x7FF).toNat
  let fraction := (bits &&& 0xFFFFFFFFFFFFF).toNat
  if biased = 0 then ⟨fraction, -1074, false⟩
  else ⟨fraction + Nat.pow 2 52, (biased : Int) - 1075, fraction = 0 && biased > 1⟩

def compareScaled (a : Nat) (e : Int) (b : Nat) (k : Int) : Ordering :=
  compare (a * Nat.pow 2 e.toNat * Nat.pow 10 (-k).toNat)
    (b * Nat.pow 10 k.toNat * Nat.pow 2 (-e).toNat)

def floorScaled (a : Nat) (e : Int) (k : Int) : Nat :=
  (a * Nat.pow 2 e.toNat * Nat.pow 10 (-k).toNat) / (Nat.pow 2 (-e).toNat * Nat.pow 10 k.toNat)

def shiftsBelowOne (num den : Nat) : Nat → Nat → Nat
  | 0, j => j
  | fuel + 1, j => if num * Nat.pow 10 j ≥ den then j else shiftsBelowOne num den fuel (j + 1)

def log10Floor (a : Nat) (e : Int) : Int :=
  let num := a * Nat.pow 2 e.toNat
  let den := Nat.pow 2 (-e).toNat
  if num ≥ den then ((Nat.toDigits 10 (num / den)).length : Int) - 1
  else -((shiftsBelowOne num den 1200 1 : Nat) : Int)

def Digits.trim : Nat → Digits → Digits
  | 0, d => d
  | fuel + 1, d =>
    if d.digits ≠ 0 ∧ d.digits % 10 = 0 then Digits.trim fuel ⟨d.digits / 10, d.exp10 + 1⟩ else d

section Search
variable (b : Binary) (tie : Tie)

def aboveLow (t : Nat) (k : Int) : Bool :=
  let low := 4 * b.mantissa - (if b.narrowBelow then 1 else 2)
  match compareScaled low (b.exp2 - 2) t k with
  | .lt => true
  | .eq => b.mantissa % 2 == 0
  | .gt => false

def belowHigh (t : Nat) (k : Int) : Bool :=
  match compareScaled (4 * b.mantissa + 2) (b.exp2 - 2) t k with
  | .gt => true
  | .eq => b.mantissa % 2 == 0
  | .lt => false

def onGrid (k : Int) : Option Digits :=
  let t := floorScaled b.mantissa b.exp2 k
  if compareScaled b.mantissa b.exp2 t k == .eq then some ⟨t, k⟩
  else
    let lo := aboveLow b t k
    let hi := belowHigh b (t + 1) k
    if lo && hi then
      match compareScaled (2 * b.mantissa) b.exp2 (2 * t + 1) k with
      | .lt => some ⟨t, k⟩
      | .gt => some ⟨t + 1, k⟩
      | .eq =>
        match tie with
        | .up => some ⟨t + 1, k⟩
        | .toEven => if t % 2 = 0 then some ⟨t, k⟩ else some ⟨t + 1, k⟩
    else if lo then some ⟨t, k⟩
    else if hi then some ⟨t + 1, k⟩
    else none

/-- Tries the grids of `n`, `n + 1`, … significant digits below the leading exponent `p`. -/
def search (p : Int) : Nat → Nat → Option Digits
  | 0, _ => none
  | fuel + 1, n =>
    match onGrid b tie (p - n + 1) with
    | some d => some d
    | none => search p fuel (n + 1)

end Search

/-- The shortest digits that read back as the given finite positive double. -/
def Binary.shortest (b : Binary) (tie : Tie) : Digits :=
  let p := log10Floor b.mantissa b.exp2
  match search b tie p 17 1 with
  | some d => Digits.trim 20 d
  | none => ⟨floorScaled b.mantissa b.exp2 (p - 16), p - 16⟩

end EndpointCall.Decimal
