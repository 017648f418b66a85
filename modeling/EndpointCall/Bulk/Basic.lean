import EndpointCall.Call.Endpoint
/-! Bulk runs: stages, dispositions, listeners, reports and the placement of workers. -/
namespace EndpointCall

def CallStyle.check (s : CallStyle) (d : Declaration) : Except Error Unit :=
  let multiple := d.returns.any (·.multiple)
  if multiple == s.wantsMultiple then .ok ()
  else .error (.unsupported ("return shape does not match " ++ s.name ++
    " bulk calls for endpoint: " ++ d.path))

namespace Endpoint

variable {α β σ : Type}

/-- One call of a bulk run in the endpoint's style: its outputs, and whether the worker goes on. -/
def bulkCall (e : Endpoint α β) (svc : Service σ) (batch : List α) : CallM σ (List β × Bool) :=
  match e.style with
  | .inputOutput => do
    let outs ← e.callInputOutput svc batch
    pure (outs, true)
  | .input => do
    e.callInput svc batch
    pure ([], true)
  | .output => do
    let outs ← e.callOutput svc
    let ctx ← get
    pure (outs, !outs.isEmpty && (e.decl.endpointState.isNone || ctx.endpointState.isSome))
  | .exec => do
    let more ← e.callExec svc
    pure ([], more)

end Endpoint

namespace Bulk

inductive Stage where
  | idle
  | accepting
  | draining
  | completed
  | aborted
  deriving Repr, BEq, DecidableEq

/-- What follows a failed call. -/
inductive Disposition where
  | retry
  | skip
  | stopWorker
  | stopAll
  deriving Repr, BEq, DecidableEq

inductive Verdict where
  | dispose (d : Disposition)
  | fail (text : Option String)
  deriving Repr, BEq

inductive Exit where
  | returned
  | panicked (text : Option String)
  deriving Repr, BEq

/-- Why a computation of a run ends before it answers. -/
inductive Halt where
  | listener (text : Option String)
  | stalled
  deriving Repr, BEq

def panicError (text : Option String) : Error :=
  .invalidState ("bulk worker panicked: " ++ text.getD "(non-string panic)")

def maxRetry : UInt32 := 4294967295

def saturatingSucc (n : UInt32) : UInt32 := if n = maxRetry then n else n + 1

/-- The error listener, the output listener and the spawner of pooled worker threads. -/
structure Listeners (σ α β : Type) where
  onError : Option (UInt32 → Error → CallContext → List α → StateM σ Verdict) := none
  onOutput : Option (β → StateM σ Exit) := none
  spawn : Nat → Option String := fun _ => none

structure Report where
  calls : Nat
  retries : Nat
  skipped : Nat
  unprocessed : Nat
  contexts : List CallContext
  deriving Repr, BEq

inductive Placement where
  | inline (ctx : CallContext)
  | pool (ctxs : List CallContext)
  deriving Repr, BEq

/-- One context per pooled worker, or copies of one template that carries no state. -/
def poolContexts (ctxs : List CallContext) (n : Nat) (s : CallStyle) :
    Except Error (List CallContext) :=
  if n = 0 then .error (.configuration "thread count must be at least 1")
  else if ctxs.length = n then .ok ctxs
  else match ctxs with
    | [t] =>
      if !s.takesInput then
        .error (.configuration ("endpoint takes no input; pass one call context per thread " ++
          "instead of a template for " ++ toString n ++ " threads"))
      else if t.session.isSome || t.endpointState.isSome then
        .error (.configuration ("a template context with a session or endpoint state cannot be " ++
          "shared by several threads"))
      else .ok (List.replicate n t)
    | _ => .error (.configuration (toString ctxs.length ++ " call contexts cannot be spread over " ++
        toString n ++ " threads"))

end Bulk
end EndpointCall
