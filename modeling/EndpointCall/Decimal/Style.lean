import EndpointCall.Decimal.Shortest
/-! Decimal text of a double from its shortest digits, in the JSON and the message style. -/
namespace EndpointCall.Decimal

/-- How a double is written as decimal text. -/
structure Style where
  maxIntDigits : Option Nat
  maxLeadingZeros : Option Nat
  pointZero : Bool
  plusExponent : Bool
  tie : Tie

def Style.json : Style := ⟨some 16, some 5, true, true, .toEven⟩

def Style.message : Style := ⟨none, none, true, false, .up⟩

def zeros (n : Nat) : String := String.ofList (List.replicate n '0')

def Style.render (st : Style) (d : Digits) : String :=
  let s := toString d.digits
  let len : Int := s.length
  let kk := len + d.exp10
  let cs := s.toList
  let positional : String :=
    if d.exp10 ≥ 0 then
      s ++ zeros d.exp10.toNat ++ (if st.pointZero then ".0" else "")
    else if kk > 0 then
      String.ofList (cs.take kk.toNat) ++ "." ++ String.ofList (cs.drop kk.toNat)
    else "0." ++ zeros (-kk).toNat ++ s
  let big := match st.maxIntDigits with
    | some m => kk > (m : Int)
    | none => false
  let small := match st.maxLeadingZeros with
    | some m => kk ≤ -(m : Int)
    | none => false
  if big || small then
    let mant := match cs with
      | [c] => String.singleton c
      | c :: rest => String.singleton c ++ "." ++ String.ofList rest
      | [] => "0"
    let e := kk - 1
    mant ++ "e" ++ (if st.plusExponent && e > 0 then "+" else "") ++ toString e
  else positional

def Style.format (st : Style) (f : Float) : String :=
  let bits := f.toBits
  let neg := bits >>> 63 == 1
  let sign := if neg then "-" else ""
  let mag := bits &&& 0x7FFFFFFFFFFFFFFF
  if mag == 0 then sign ++ (if st.pointZero then "0.0" else "0")
  else if mag == 0x7FF0000000000000 then sign ++ "inf"
  else if mag > 0x7FF0000000000000 then "NaN"
  else sign ++ st.render ((Binary.ofBits mag).shortest st.tie)

end EndpointCall.Decimal
