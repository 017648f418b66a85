import EndpointCall.Call.Caller
import EndpointCall.Config.Basic
/-! Endpoints by call style, and how a bulk run calls each. -/
namespace EndpointCall

/-- How an endpoint is called. -/
inductive CallStyle where
  | inputOutput
  | input
  | output
  | exec
  deriving Repr, BEq, DecidableEq

namespace CallStyle

def name : CallStyle → String
  | .inputOutput => "InputOutput"
  | .input => "Input"
  | .output => "Output"
  | .exec => "Exec"

def takesInput : CallStyle → Bool
  | .inputOutput | .input => true
  | .output | .exec => false

def wantsMultiple : CallStyle → Bool
  | .inputOutput | .output => true
  | .input | .exec => false

end CallStyle

/-- A caller with its call style and the bulk settings of its client. -/
structure Endpoint (α β : Type) where
  caller : Caller α β
  style : CallStyle
  bulk : BulkConfig := {}

namespace Endpoint

variable {α β σ : Type}

def inputOutput (j : Json) (ih : Handle α) (oh : Handle β) (bulk : BulkConfig) :
    Except Error (Endpoint α β) :=
  (Caller.new j (some ih) (some oh)).map fun c => ⟨c, .inputOutput, bulk⟩

def inputOnly (j : Json) (ih : Handle α) (bulk : BulkConfig) :
    Except Error (Endpoint α Unit) :=
  (Caller.new j (some ih) none).map fun c => ⟨c, .input, bulk⟩

def outputOnly (j : Json) (oh : Handle β) (bulk : BulkConfig) :
    Except Error (Endpoint Unit β) :=
  (Caller.new j none (some oh)).map fun c => ⟨c, .output, bulk⟩

def exec (j : Json) (bulk : BulkConfig) : Except Error (Endpoint Unit Unit) :=
  (Caller.new j none none).map fun c => ⟨c, .exec, bulk⟩

def decl (e : Endpoint α β) : Declaration := e.caller.decl

def allowsEndpointState (e : Endpoint α β) : Bool := e.decl.endpointState.isSome

def allowsSession (e : Endpoint α β) : Bool := e.decl.session.isSome

def allowsConstants (e : Endpoint α β) : Bool := e.decl.constants.isSome

def allowsInput (e : Endpoint α β) : Bool := e.decl.input.isSome

def callInputOutput (e : Endpoint α β) (svc : Service σ) (input : List α) : CallM σ (List β) := do
  let req ← e.caller.makeRequest (← get) (some input)
  e.caller.responseMultiple svc req

def callInput (e : Endpoint α β) (svc : Service σ) (input : List α) : CallM σ Unit := do
  let req ← e.caller.makeRequest (← get) (some input)
  if e.decl.returns.isSome then
    let _ ← e.caller.responseWithState svc req
  else e.caller.responseNone svc req

def callOutput (e : Endpoint α β) (svc : Service σ) : CallM σ (List β) := do
  let req ← e.caller.makeRequest (← get) none
  e.caller.responseMultiple svc req

def callExec (e : Endpoint α β) (svc : Service σ) : CallM σ Bool := do
  let req ← e.caller.makeRequest (← get) none
  if e.decl.returns.isSome then e.caller.responseWithState svc req
  else do
    e.caller.responseNone svc req
    pure false

def callStream (e : Endpoint α β) (svc : Service σ) (input : Option (List α)) :
    CallM σ (Caller.OutputStream β) := do
  let req ← e.caller.makeRequest (← get) input
  e.caller.responseStream svc req

end Endpoint
end EndpointCall
