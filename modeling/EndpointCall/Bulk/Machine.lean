import EndpointCall.Bulk.Run
/-! Bulk runs under every order of moves of producers, workers and `await`. -/
namespace EndpointCall.Bulk

variable {α β σ : Type}

/-- How a worker's call ended: outputs, or an error with the listener's verdict. -/
inductive Answer (β : Type) where
  | success (outs : List β)
  | failure (e : Error) (verdict : Option Verdict)

def Answer.ends : Answer β → Bool
  | .success _ => true
  | .failure _ none => true
  | .failure _ (some (.dispose .retry)) => false
  | .failure _ (some (.dispose .skip)) => true
  | .failure _ (some (.dispose .stopWorker)) => true
  | .failure _ (some (.dispose .stopAll)) => true
  | .failure _ (some (.fail _)) => true

def Answer.stopsWorker : Answer β → Bool
  | .success _ => false
  | .failure _ none => false
  | .failure _ (some (.dispose .retry)) => false
  | .failure _ (some (.dispose .skip)) => false
  | .failure _ (some (.dispose .stopWorker)) => true
  | .failure _ (some (.dispose .stopAll)) => false
  | .failure _ (some (.fail _)) => false

inductive Event (α β : Type) where
  | queued (item : α)
  | took (worker : Nat) (batch : List α)
  | called (worker : Nat) (batch : List α) (answer : Answer β)

namespace Event

def queuedItem : Event α β → Option α
  | .queued x => some x
  | .took _ _ => none
  | .called _ _ _ => none

def takenBatch : Event α β → Option (List α)
  | .queued _ => none
  | .took _ b => some b
  | .called _ _ _ => none

def stopsWorker : Event α β → Bool
  | .queued _ => false
  | .took _ _ => false
  | .called _ _ a => a.stopsWorker

def held (i : Nat) (h : Option (List α)) : Event α β → Option (List α)
  | .queued _ => h
  | .took j b => if j = i then some b else h
  | .called j _ a => if j = i && a.ends then none else h

end Event

def Intake.events (item : α) : Intake → List (Event α β)
  | .queued => [.queued item]
  | _ => []

namespace Run

def takeEvents (r : Run α β) (i : Nat) : List (Event α β) :=
  match (r.takeBatch i).workers[i]? with
  | some ⟨_, .holding b _⟩ => [.took i b]
  | _ => []

def answerOf (L : Listeners σ α β) (batch : List α) (n : UInt32) (s : σ) :
    Except Error (List β × Bool) × CallContext → Answer β
  | (.ok (outs, _), _) => .success outs
  | (.error e, ctx) => .failure e ((L.verdict n e ctx batch).run s).1

end Run

/-- One move of a run with the surroundings it changes, and the events it shows. -/
inductive Move (L : Listeners σ α β) (svc : Service σ) (budget : Nat) :
    Run α β × σ → List (Event α β) → Run α β × σ → Prop
  | offer {r r' : Run α β} {s s' : σ} (item : α) (res : Intake) :
      (r.offer L svc budget item).run s = (.ok (res, r'), s') →
      Move L svc budget (r, s) (res.events item) (r', s')
  | take {r : Run α β} {s : σ} (i : Nat) (ctx : CallContext) :
      r.started = true → r.workers[i]? = some ⟨ctx, .ready⟩ →
      Move L svc budget (r, s) (r.takeEvents i) (r.takeBatch i, s)
  | call {r r' : Run α β} {s s₁ s' : σ} (i : Nat) (ctx : CallContext) (batch : List α) (n : UInt32)
      (res : Except Error (List β × Bool) × CallContext) :
      r.started = true → r.workers[i]? = some ⟨ctx, .holding batch n⟩ → r.aborted = false →
      ((r.endpoint.bulkCall svc batch).run.run ctx).run s = (res, s₁) →
      (r.afterCall L i batch n res).run s₁ = (.ok r', s') →
      Move L svc budget (r, s) [.called i batch (Run.answerOf L batch n s₁ res)] (r', s')
  | crash {r : Run α β} {s s' : σ} (i : Nat) (ctx : CallContext) (batch : List α) (n : UInt32)
      (text : Option String) :
      r.pooled = true → r.started = true → r.workers[i]? = some ⟨ctx, .holding batch n⟩ →
      r.aborted = false →
      Move L svc budget (r, s) [] ((r.abort (panicError text)).leave i .stopped, s')
  | abandon {r : Run α β} {s : σ} (i : Nat) (ctx : CallContext) (batch : List α) (n : UInt32) :
      r.started = true → r.workers[i]? = some ⟨ctx, .holding batch n⟩ → r.aborted = true →
      Move L svc budget (r, s) [] (r.leave i .stopped, s)
  | close {r : Run α β} {s : σ} : Move L svc budget (r, s) [] ((r.close L).2, s)

/-- Moves one after another, with the events they show in order. -/
inductive Runs (L : Listeners σ α β) (svc : Service σ) (budget : Nat) :
    Run α β × σ → List (Event α β) → Run α β × σ → Prop
  | refl (x : Run α β × σ) : Runs L svc budget x [] x
  | tail {x y z : Run α β × σ} {es e : List (Event α β)} :
      Runs L svc budget x es y → Move L svc budget y e z → Runs L svc budget x (es ++ e) z

namespace Log

def heldBy (i : Nat) (log : List (Event α β)) : Option (List α) :=
  log.foldl (Event.held i) none

def Owned (log : List (Event α β)) : Prop :=
  ∀ pre i b a post, log = pre ++ .called i b a :: post → heldBy i pre = some b

def queuedItems (log : List (Event α β)) : List α := log.filterMap Event.queuedItem

def takenBatches (log : List (Event α β)) : List (List α) := log.filterMap Event.takenBatch

def stops (log : List (Event α β)) : Nat := log.countP Event.stopsWorker

end Log
end EndpointCall.Bulk
