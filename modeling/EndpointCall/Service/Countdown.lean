import EndpointCall.Transport.Service
import EndpointCall.Text.Utf8
import EndpointCall.Text.Blank
import EndpointCall.Json.Writer
/-! Services counting down their endpoint state. -/
namespace EndpointCall

structure CountdownRule where
  start : Int
  failAt : Option Int

def digitValue (c : Char) : Option Nat :=
  if c.isDigit then some (c.toNat - 48) else none

def readDigits : List Char → Option Nat
  | [] => none
  | cs => cs.foldl (fun acc c => do pure ((← acc) * 10 + (← digitValue c))) (some 0)

def readSigned64? (s : String) : Option Int :=
  let (neg, digits) := match s.toList with
    | '-' :: r => (true, r)
    | '+' :: r => (false, r)
    | r => (false, r)
  (readDigits digits).bind fun n =>
    let v : Int := if neg then -(n : Int) else n
    if -Int.pow 2 63 ≤ v && v < Int.pow 2 63 then some v else none

def Request.firstText (r : Request) (name : String) : Option String :=
  (r.field? name).bind fun f => f.value.documents.head?.map fun d => Utf8.decodeLossy d.bytes

/-- A service counting down its endpoint state. -/
def Service.countdown (r : CountdownRule) : Service Unit := fun req shape =>
  let n := ((req.firstText "endpointState").bind fun t => readSigned64? (Text.trim t)).getD r.start
  let tag := (req.firstText "endpointConstants").orElse fun _ => req.firstText "workUnit"
  if r.failAt == some n then pure (.error (.server 500 s!"countdown failed at {n}"))
  else if n ≤ 0 then
    pure (.ok (match shape with
      | .none => .none
      | .single _ _ => .single none
      | .multiple _ _ => .multiple []))
  else
    let doc (f : Format) (t : String) : Document := ⟨f, Utf8.encode t⟩
    let out := match tag with
      | none => toString n
      | some c => Json.quote (c ++ ":" ++ toString n)
    pure (.ok (match shape with
      | .none => .none
      | .single _ f => .single (some (doc f (toString (n - 1))))
      | .multiple _ f => .multiple [doc f (toString (n - 1)), doc f out]))

end EndpointCall
