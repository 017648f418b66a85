import EndpointCall.Transport.Service
import EndpointCall.Text.Utf8
/-! Services echoing their input documents. -/
namespace EndpointCall

structure EchoRule where
  failOn : List String
  failTimes : Option Nat
  error : Error

abbrev FailureCounts := List (String × Nat)

namespace FailureCounts

def count (fs : FailureCounts) (t : String) : Nat := (fs.lookup t).getD 0

def bump (fs : FailureCounts) (t : String) : FailureCounts :=
  (t, fs.count t + 1) :: fs.filter (·.1 != t)

end FailureCounts

def EchoRule.trips (r : EchoRule) (fs : FailureCounts) (t : String) : Bool :=
  r.failOn.contains t && match r.failTimes with
    | none => true
    | some n => fs.count t < n

def Response.echoing (shape : ResponseShape) (docs : List Document) : Response :=
  match shape with
  | .none => .none
  | .single _ f => .single (docs.getLast?.map fun d => ⟨f, d.bytes⟩)
  | .multiple _ f => .multiple (docs.map fun d => ⟨f, d.bytes⟩)

/-- A service echoing its input documents, failing on those that trip the rule. -/
def Service.echo (r : EchoRule) : Service FailureCounts := fun req shape => do
  let docs := match req.field? "input" with
    | some f => f.value.documents
    | none => []
  let fs ← get
  match docs.find? (fun d => r.trips fs (Utf8.decodeLossy d.bytes)) with
  | some d =>
    set (fs.bump (Utf8.decodeLossy d.bytes))
    pure (.error r.error)
  | none => pure (.ok (Response.echoing shape docs))

end EndpointCall
