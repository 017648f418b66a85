import EndpointCall.Bulk.Basic
/-! Bulk runs as a machine: the queue, the workers, the stage and the sums. -/
namespace EndpointCall.Bulk

variable {α β σ : Type}

/-- Where a worker stands in its loop. -/
inductive Phase (α : Type) where
  | ready
  | holding (batch : List α) (retry : UInt32)
  | finished
  | stopped
  deriving Repr, BEq, DecidableEq

def Phase.isGone : Phase α → Bool
  | .finished | .stopped => true
  | _ => false

structure Worker (α : Type) where
  context : CallContext
  phase : Phase α := .ready
  deriving DecidableEq

abbrev Act (σ : Type) := ExceptT Halt (StateM σ)

inductive Intake where
  | queued
  | refused (e : Error)
  | full
  deriving Repr, BEq

/-- A bulk run of an endpoint. -/
structure Run (α β : Type) where
  endpoint : Endpoint α β
  batchSize : Nat
  capacity : Nat
  batchSize_pos : 0 < batchSize
  batchSize_le : batchSize ≤ capacity
  pooled : Bool
  stage : Stage := .idle
  queue : List α := []
  closed : Bool := false
  live : Nat
  aborted : Bool := false
  failure : Option Error := none
  calls : Nat := 0
  retries : Nat := 0
  skipped : Nat := 0
  workers : List (Worker α)
  started : Bool := false

/-- The budget of each waiting loop of a run; a loop that reaches it stalls the run. -/
def stepBudget : Nat := 20000

def Listeners.verdict (L : Listeners σ α β) (n : UInt32) (e : Error) (ctx : CallContext)
    (batch : List α) : StateM σ (Option Verdict) :=
  match (if e.isConfiguration then none else L.onError) with
  | none => pure none
  | some f => some <$> f n e ctx batch

def Listeners.refused (L : Listeners σ α β) (n : Nat) : Option (Nat × String) :=
  (List.range n).findSome? fun i => (L.spawn i).map (i, ·)

namespace Run

def new (e : Endpoint α β) (p : Placement) : Except Error (Run α β) := do
  e.style.check e.decl
  let batch := max e.decl.batchSize 1
  let (pooled, ctxs) ← match p with
    | .inline ctx => pure (false, [ctx])
    | .pool [] => throw (.configuration "bulk caller needs at least one call context")
    | .pool cs => pure (true, cs)
  pure { endpoint := e, batchSize := batch, capacity := max e.bulk.queueCapacity batch,
         batchSize_pos := Nat.lt_of_lt_of_le Nat.one_pos (Nat.le_max_right _ _),
         batchSize_le := Nat.le_max_right _ _, pooled := pooled,
         live := if pooled then 0 else 1, workers := ctxs.map fun c => { context := c } }

def withContexts (e : Endpoint α β) (cs : List CallContext) : Except Error (Run α β) :=
  if cs.isEmpty then .error (.configuration "bulk caller needs at least one call context")
  else new e (.pool cs)

def withThreads (e : Endpoint α β) (cs : List CallContext) (n : Nat) : Except Error (Run α β) := do
  new e (.pool (← poolContexts cs n e.style))

def abortedError (r : Run α β) : Error :=
  .bulkAborted (r.failure.getD (.invalidState "bulk caller aborted"))

def abort (r : Run α β) (e : Error) : Run α β :=
  { r with failure := some e, aborted := true, stage := .aborted }

def stopFrom (r : Run α β) (k : Nat) : Run α β :=
  { r with workers := r.workers.mapIdx fun j w => if k ≤ j then { w with phase := .stopped } else w }

def wake (r : Run α β) : Run α β := if r.stage = .idle then { r with stage := .accepting } else r

/-- Leaves the idle stage and starts a pool's threads once, aborting if the system refuses one. -/
def start (L : Listeners σ α β) (r : Run α β) : Except Error Unit × Run α β :=
  let r := r.wake
  if r.pooled && !r.started then
    match L.refused r.workers.length with
    | none => (.ok (), { r with started := true, live := r.live + r.workers.length })
    | some (k, text) =>
      let e := Error.invalidState ("failed to spawn bulk worker: " ++ text)
      (.error e, ({ r with started := true, live := r.live + k }.stopFrom k).abort e)
  else (.ok (), r)

def setContext (r : Run α β) (i : Nat) (ctx : CallContext) : Run α β :=
  { r with workers := r.workers.modify i fun w => { w with context := ctx } }

def setPhase (r : Run α β) (i : Nat) (p : Phase α) : Run α β :=
  { r with workers := r.workers.modify i fun w => { w with phase := p } }

def leave (r : Run α β) (i : Nat) (p : Phase α) : Run α β :=
  let r := r.setPhase i p
  if r.pooled then { r with live := r.live - 1 } else r

def batchReady (r : Run α β) : Bool :=
  r.batchSize ≤ r.queue.length || (r.closed && !r.queue.isEmpty)

def takeBatch (r : Run α β) (i : Nat) : Run α β :=
  if !r.endpoint.style.takesInput then r.setPhase i (.holding [] 0)
  else if r.aborted then r.leave i .finished
  else if r.batchReady then
    ({ r with queue := r.queue.drop r.batchSize }).setPhase i (.holding (r.queue.take r.batchSize) 0)
  else if r.closed then r.leave i .finished
  else r

def deliver (f : β → StateM σ Exit) : List β → StateM σ Exit
  | [] => pure .returned
  | o :: os => do
    match ← f o with
    | .returned => deliver f os
    | .panicked t => pure (.panicked t)

def dispatch (L : Listeners σ α β) (outs : List β) : StateM σ Exit :=
  match L.onOutput with
  | some f => deliver f outs
  | none => pure .returned

def afterPanic (r : Run α β) (i : Nat) (text : Option String) : Except Halt (Run α β) :=
  if r.pooled then .ok ((r.abort (panicError text)).leave i .stopped)
  else .error (.listener text)

def halting (x : Except Halt (Run α β)) : Act σ (Run α β) :=
  match x with
  | .ok r => pure r
  | .error h => throw h

def afterVerdict (r : Run α β) (i : Nat) (batch : List α) (n : UInt32) (e : Error) :
    Option Verdict → Except Halt (Run α β)
  | none => .ok ((r.abort e).leave i .stopped)
  | some (.dispose .retry) =>
    .ok ({ r with retries := r.retries + 1 }.setPhase i (.holding batch (saturatingSucc n)))
  | some (.dispose .skip) =>
    let r := { r with skipped := r.skipped + 1 }
    .ok (if r.endpoint.style.takesInput then r.setPhase i .ready else r.leave i .finished)
  | some (.dispose .stopWorker) => .ok (r.leave i .stopped)
  | some (.dispose .stopAll) => .ok ((r.abort e).leave i .stopped)
  | some (.fail t) => r.afterPanic i t

def afterFailure (L : Listeners σ α β) (r : Run α β) (i : Nat) (ctx : CallContext)
    (batch : List α) (n : UInt32) (e : Error) : Act σ (Run α β) := do
  let v ← (L.verdict n e ctx batch : StateM σ (Option Verdict))
  halting (r.afterVerdict i batch n e v)

/-- What worker `i` does with the answer of its call with `batch`. -/
def afterCall (L : Listeners σ α β) (r : Run α β) (i : Nat) (batch : List α) (n : UInt32) :
    Except Error (List β × Bool) × CallContext → Act σ (Run α β)
  | (.ok (outs, more), ctx) => do
    let r := { r with calls := r.calls + 1 }.setContext i ctx
    match ← (dispatch L outs : StateM σ Exit) with
    | .returned => pure (if more then r.setPhase i .ready else r.leave i .finished)
    | .panicked t => halting (r.afterPanic i t)
  | (.error e, ctx) => (r.setContext i ctx).afterFailure L i ctx batch n e

def attempt (L : Listeners σ α β) (svc : Service σ) (r : Run α β) (i : Nat) (ctx : CallContext)
    (batch : List α) (n : UInt32) : Act σ (Run α β) := do
  if r.aborted then return r.leave i .stopped
  let res ← ((r.endpoint.bulkCall svc batch).run.run ctx : StateM σ _)
  r.afterCall L i batch n res

def workStep (L : Listeners σ α β) (svc : Service σ) (r : Run α β) (i : Nat) : Act σ (Run α β) :=
  match r.workers[i]? with
  | some { context := ctx, phase := .holding batch n } => r.attempt L svc i ctx batch n
  | some { phase := .ready, .. } => pure (r.takeBatch i)
  | _ => pure r

def holding (r : Run α β) (i : Nat) : Bool :=
  match r.workers[i]? with
  | some { phase := .holding _ _, .. } => true
  | _ => false

def gone (r : Run α β) (i : Nat) : Bool :=
  match r.workers[i]? with
  | some w => w.phase.isGone
  | none => true

def settle (L : Listeners σ α β) (svc : Service σ) (i : Nat) : Nat → Run α β → Act σ (Run α β)
  | 0, r => if r.holding i then throw .stalled else pure r
  | fuel + 1, r =>
    if r.holding i then do settle L svc i fuel (← r.workStep L svc i) else pure r

def runWorker (L : Listeners σ α β) (svc : Service σ) (budget i : Nat) :
    Nat → Run α β → Act σ (Run α β)
  | 0, r => if r.gone i then pure r else throw .stalled
  | fuel + 1, r =>
    if r.gone i then pure r
    else do runWorker L svc budget i fuel (← (r.takeBatch i).settle L svc i budget)

def round (L : Listeners σ α β) (svc : Service σ) (r : Run α β) : Act σ (Run α β) :=
  (List.range r.workers.length).foldlM (fun r i => r.workStep L svc i) r

def allGone (r : Run α β) : Bool := r.workers.all (·.phase.isGone)

def drive (L : Listeners σ α β) (svc : Service σ) : Nat → Run α β → Act σ (Run α β)
  | 0, r => if r.allGone then pure r else throw .stalled
  | fuel + 1, r => if r.allGone then pure r else do drive L svc fuel (← r.round L svc)

/-- The producer's input to a started run: refused, waiting on a full queue, or queued. -/
def enqueue (L : Listeners σ α β) (svc : Service σ) (budget : Nat) (r : Run α β) (item : α) :
    Act σ (Intake × Run α β) := do
  if r.aborted then return (.refused r.abortedError, r)
  if r.closed then return (.refused (.invalidState "bulk caller no longer accepts input"), r)
  if r.live = 0 then return (.refused (.invalidState "every bulk worker has stopped"), r)
  if r.capacity ≤ r.queue.length then return (.full, r)
  let r := { r with queue := r.queue ++ [item] }
  if r.queue.length < r.batchSize || r.pooled then return (.queued, r)
  let r ← ({ r with queue := [] }.setPhase 0 (.holding r.queue 0)).settle L svc 0 budget
  match r.workers[0]? with
  | some { phase := .stopped, .. } =>
    if r.aborted then return (.refused r.abortedError, r)
    else return (.queued, { r with live := 0 })
  | _ => return (.queued, r)

def offer (L : Listeners σ α β) (svc : Service σ) (budget : Nat) (r : Run α β) (item : α) :
    Act σ (Intake × Run α β) :=
  if !r.endpoint.style.takesInput then
    pure (.refused (.unsupported ("endpoint takes no input: " ++ r.endpoint.caller.path)), r)
  else match r.start L with
    | (.error e, r) => pure (.refused e, r)
    | (.ok (), r) => r.enqueue L svc budget item

def accept (L : Listeners σ α β) (svc : Service σ) (budget : Nat) (r : Run α β) (item : α) :
    Act σ (Except Error Unit × Run α β) :=
  go budget r
where
  go : Nat → Run α β → Act σ (Except Error Unit × Run α β)
    | fuel, r => do
      match ← r.offer L svc budget item with
      | (.queued, r) => pure (.ok (), r)
      | (.refused e, r) => pure (.error e, r)
      | (.full, r) =>
        match fuel with
        | 0 => throw .stalled
        | fuel + 1 => go fuel (← r.round L svc)

def acceptAll (L : Listeners σ α β) (svc : Service σ) (budget : Nat) :
    List α → Run α β → Act σ (Except Error Unit × Run α β)
  | [], r => pure (.ok (), r)
  | x :: xs, r => do
    match ← r.accept L svc budget x with
    | (.ok (), r) => acceptAll L svc budget xs r
    | (.error e, r) => pure (.error e, r)

def finish (r : Run α β) : Except Error Report × Run α β :=
  if r.aborted then (.error r.abortedError, { r with stage := .aborted })
  else (.ok ⟨r.calls, r.retries, r.skipped, r.queue.length, r.workers.map (·.context)⟩,
    { r with stage := .completed })

def close (L : Listeners σ α β) (r : Run α β) : Except Error Unit × Run α β :=
  match r.start L with
  | (.error e, r) => (.error e, r)
  | (.ok (), r) =>
    let r := if r.stage = .aborted then r else { r with stage := .draining }
    (.ok (), { r with closed := true })

def drain (L : Listeners σ α β) (svc : Service σ) (budget : Nat) (r : Run α β) :
    Act σ (Except Error Report × Run α β) := do
  let fuel := r.queue.length + budget + 1
  let r ← if r.pooled then r.drive L svc fuel
    else if 0 < r.live then (r.setPhase 0 .ready).runWorker L svc budget 0 fuel
    else pure r
  pure r.finish

/-- Closes the queue and waits for the workers; a start that fails ends it with its error. -/
def await (L : Listeners σ α β) (svc : Service σ) (budget : Nat) (r : Run α β) :
    Act σ (Except Error Report × Run α β) :=
  match r.close L with
  | (.error e, r) => pure (.error e, r)
  | (.ok (), r) => r.drain L svc budget

def drop (r : Run α β) : Run α β :=
  if r.pooled && r.started && !r.aborted then
    r.abort (.invalidState "bulk caller dropped before completion")
  else r

end Run

def Stage.name : Stage → String
  | .idle => "idle"
  | .accepting => "accepting"
  | .draining => "draining"
  | .completed => "completed"
  | .aborted => "aborted"

end EndpointCall.Bulk
