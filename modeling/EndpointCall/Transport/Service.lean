import EndpointCall.Transport.Response
/-! Services as a caller sees them. -/
namespace EndpointCall

/-- A service with state `σ`: a call answers a response or an error and may change the state. -/
abbrev Service (σ : Type) := Request → ResponseShape → StateM σ (Except Error Response)

structure Recording (σ : Type) where
  inner : σ
  log : Array (Request × ResponseShape) := #[]

def callLimit : Nat := 2000

def Service.recorded {σ : Type} (svc : Service σ) : Service (Recording σ) := fun req shape => do
  let r ← get
  let n := r.log.size
  set { r with log := r.log.push (req, shape) }
  if n ≥ callLimit then pure (.error (.transport "call limit reached"))
  else
    let (answer, inner') := (svc req shape).run r.inner
    modify fun r => { r with inner := inner' }
    pure answer

def Service.focus {σ τ : Type} (view : τ → σ) (update : σ → τ → τ) (svc : Service σ) :
    Service τ := fun req shape => do
  let t ← get
  let (answer, s') := (svc req shape).run (view t)
  set (update s' t)
  pure answer

end EndpointCall
