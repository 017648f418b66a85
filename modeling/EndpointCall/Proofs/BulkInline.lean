import EndpointCall.Proofs.BulkSteps
import EndpointCall.Proofs.CallState
/-! Inline runs chunk by chunk. -/
namespace EndpointCall.Bulk

variable {α β σ γ δ : Type}

def Agree (R : γ → δ → Prop) : Except Halt γ × σ → Except Halt δ × σ → Prop
  | (.ok a, s), (.ok b, s') => R a b ∧ s = s'
  | (.error h, s), (.error h', s') => h = h' ∧ s = s'
  | _, _ => False

section Agree

variable {R : γ → δ → Prop} {s : σ}

theorem agree_pure {a : γ} {b : δ} (h : R a b) :
    Agree R ((pure a : Act σ γ).run s) ((pure b : Act σ δ).run s) :=
  ⟨h, rfl⟩

theorem agree_throw (h : Halt) :
    Agree R ((throw h : Act σ γ).run s) ((throw h : Act σ δ).run s) :=
  ⟨rfl, rfl⟩

theorem Agree.mono {R' : γ → δ → Prop} {x : Except Halt γ × σ} {y : Except Halt δ × σ}
    (h : Agree R x y) (hR : ∀ a b, R a b → R' a b) : Agree R' x y := by
  rcases x with ⟨_ | a, s₁⟩ <;> rcases y with ⟨_ | b, s₂⟩
  · exact h
  · exact h.elim
  · exact h.elim
  · exact ⟨hR a b h.1, h.2⟩

theorem agree_bind {γ' δ' : Type} {R' : γ' → δ' → Prop} {x : Act σ γ} {y : Act σ δ}
    {f : γ → Act σ γ'} {g : δ → Act σ δ'} (hxy : Agree R (x.run s) (y.run s))
    (hfg : ∀ a b s', R a b → Agree R' ((f a).run s') ((g b).run s')) :
    Agree R' ((x >>= f).run s) ((y >>= g).run s) := by
  rw [act_run_bind, act_run_bind]
  rcases hx : x.run s with ⟨_ | a, s₁⟩ <;> rcases hy : y.run s with ⟨_ | b, s₂⟩ <;>
    rw [hx, hy] at hxy
  · obtain ⟨rfl, rfl⟩ := hxy
    exact ⟨rfl, rfl⟩
  · exact hxy.elim
  · exact hxy.elim
  · obtain ⟨hab, rfl⟩ := hxy
    exact hfg a b s₁ hab

theorem agree_bind_same {γ' δ' : Type} {R' : γ' → δ' → Prop} {x : Act σ γ}
    {f : γ → Act σ γ'} {g : γ → Act σ δ'}
    (hfg : ∀ a s', x.run s = (.ok a, s') → Agree R' ((f a).run s') ((g a).run s')) :
    Agree R' ((x >>= f).run s) ((x >>= g).run s) := by
  rw [act_run_bind, act_run_bind]
  rcases hx : x.run s with ⟨_ | a, s₁⟩
  · exact ⟨rfl, rfl⟩
  · exact hfg a s₁ hx

theorem Agree.eq {x y : Except Halt γ × σ} (h : Agree (· = ·) x y) : x = y := by
  rcases x with ⟨_ | a, s₁⟩ <;> rcases y with ⟨_ | b, s₂⟩
  · obtain ⟨rfl, rfl⟩ := h
    rfl
  · exact h.elim
  · exact h.elim
  · obtain ⟨rfl, rfl⟩ := h
    rfl

theorem agree_of_eq {x y : Except Halt γ × σ} (h : x = y) : Agree (· = ·) x y := by
  subst h
  rcases x with ⟨_ | a, s₁⟩ <;> exact ⟨rfl, rfl⟩

theorem act_ext {x y : Act σ γ} (h : ∀ s, x.run s = y.run s) : x = y :=
  ExceptT.ext (StateT.ext h)

end Agree

inductive Standing where
  | going
  | stopped
  | aborted (e : Error)

namespace Standing

def cause : Standing → Option Error
  | .aborted e => some e
  | _ => none

def phase : Standing → Phase α
  | .going => .ready
  | _ => .stopped

def live : Standing → Nat
  | .stopped => 0
  | _ => 1

end Standing

/-- An inline run seen chunk by chunk. -/
structure Chunked (α : Type) where
  context : CallContext
  pending : List α := []
  standing : Standing := .going
  calls : Nat := 0
  retries : Nat := 0
  skipped : Nat := 0

namespace Chunked

section Reference

variable (e : Endpoint α β) (L : Listeners σ α β) (svc : Service σ)

def send (chunk : List α) : UInt32 → Nat → Chunked α → Act σ (Chunked α)
  | _, 0, _ => throw .stalled
  | n, fuel + 1, c => do
    let (res, ctx) ← ((e.bulkCall svc chunk).run.run c.context : StateM σ _)
    match res with
    | .ok (outs, _) =>
      match ← (Run.dispatch L outs : StateM σ Exit) with
      | .returned => pure { c with context := ctx, calls := c.calls + 1 }
      | .panicked t => throw (.listener t)
    | .error err =>
      if err.isConfiguration then pure { c with standing := .aborted err }
      else match L.onError with
        | none => pure { c with standing := .aborted err }
        | some f => do
          match ← (f n err c.context chunk : StateM σ Verdict) with
          | .dispose .retry =>
            send chunk (saturatingSucc n) fuel { c with retries := c.retries + 1 }
          | .dispose .skip => pure { c with skipped := c.skipped + 1 }
          | .dispose .stopWorker => pure { c with standing := .stopped }
          | .dispose .stopAll => pure { c with standing := .aborted err }
          | .fail t => throw (.listener t)

def accept (b budget : Nat) (x : α) (c : Chunked α) : Act σ (Except Error Unit × Chunked α) :=
  match c.standing with
  | .aborted err => pure (.error (.bulkAborted err), c)
  | .stopped => pure (.error (.invalidState "every bulk worker has stopped"), c)
  | .going =>
    if c.pending.length + 1 < b then pure (.ok (), { c with pending := c.pending ++ [x] })
    else do
      let c ← send e L svc (c.pending ++ [x]) 0 budget { c with pending := [] }
      match c.standing with
      | .aborted err => pure (.error (.bulkAborted err), c)
      | _ => pure (.ok (), c)

def outcome (c : Chunked α) : Except Error Report :=
  match c.standing with
  | .aborted err => .error (.bulkAborted err)
  | _ => .ok ⟨c.calls, c.retries, c.skipped, c.pending.length, [c.context]⟩

def await (budget : Nat) (c : Chunked α) : Act σ (Except Error Report) := do
  let c ← match c.standing, c.pending with
    | .going, _ :: _ => send e L svc c.pending 0 budget { c with pending := [] }
    | _, _ => pure c
  pure c.outcome

end Reference

end Chunked

def feedThenAwait {S : Type} (accept : α → S → Act σ (Except Error Unit × S))
    (await : S → Act σ (Except Error Report)) :
    List α → S → Act σ (List (Except Error Unit) × Except Error Report)
  | [], st => do
    let rep ← await st
    pure ([], rep)
  | x :: xs, st => do
    let (res, st) ← accept x st
    let (rs, rep) ← feedThenAwait accept await xs st
    pure (res :: rs, rep)

theorem bulkCall_input {e : Endpoint α β} (hin : e.style.takesInput = true)
    (hf : e.decl.endpointState.isSome → e.decl.returns.isSome) {svc : Service σ}
    {batch : List α} {ctx ctx' : CallContext} {s s' : σ} {res : Except Error (List β × Bool)}
    (h : ((e.bulkCall svc batch).run.run ctx).run s = ((res, ctx'), s')) :
    (∀ err, res = .error err → ctx' = ctx) ∧ ∀ outs more, res = .ok (outs, more) → more = true := by
  unfold Endpoint.bulkCall at h
  cases hs : e.style with
  | inputOutput =>
    simp only [hs, callM_run_bind] at h
    rcases hx : ((e.callInputOutput svc batch).run.run ctx).run s with ⟨⟨_ | outs, ctx₁⟩, s₁⟩ <;>
      simp only [hx, callM_run_pure] at h <;> obtain ⟨⟨rfl, rfl⟩, rfl⟩ := h
    · have hk := ((Endpoint.callInputOutput_law e svc batch) ctx s _ _ _ hx).1 _ rfl
      exact ⟨fun _ _ => hk, fun _ _ h => (nomatch h)⟩
    · exact ⟨fun _ h => (nomatch h), fun _ _ h => by cases h; rfl⟩
  | input =>
    simp only [hs, callM_run_bind] at h
    rcases hx : ((e.callInput svc batch).run.run ctx).run s with ⟨⟨_ | u, ctx₁⟩, s₁⟩ <;>
      simp only [hx, callM_run_pure] at h <;> obtain ⟨⟨rfl, rfl⟩, rfl⟩ := h
    · have hk := ((Endpoint.callInput_law e svc batch hf) ctx s _ _ _ hx).1 _ rfl
      exact ⟨fun _ _ => hk, fun _ _ h => (nomatch h)⟩
    · exact ⟨fun _ h => (nomatch h), fun _ _ h => by cases h; rfl⟩
  | output => simp [hs, CallStyle.takesInput] at hin
  | exec => simp [hs, CallStyle.takesInput] at hin

namespace Run

theorem start_inline {L : Listeners σ α β} {r : Run α β} (hp : r.pooled = false) :
    ∃ st, r.start L = (.ok (), { r with stage := st }) := by
  obtain ⟨st, hw⟩ := wake_eq r
  refine ⟨st, ?_⟩
  unfold start
  rw [hw]
  simp [hp]

theorem settle_idle {L : Listeners σ α β} {svc : Service σ} {r : Run α β} {i : Nat}
    (h : r.holding i = false) (fuel : Nat) : r.settle L svc i fuel = pure r := by
  cases fuel <;> simp [settle, h]

theorem runWorker_gone {L : Listeners σ α β} {svc : Service σ} {r : Run α β} {budget i : Nat}
    (h : r.gone i = true) (fuel : Nat) : r.runWorker L svc budget i fuel = pure r := by
  cases fuel <;> simp [runWorker, h]

theorem close_inline {L : Listeners σ α β} {r : Run α β} (hp : r.pooled = false) :
    ∃ st, r.close L = (.ok (), { r with stage := st, closed := true }) := by
  obtain ⟨st, hst⟩ := start_inline (L := L) hp
  unfold close
  rw [hst]
  dsimp only
  split <;> exact ⟨_, rfl⟩

theorem settle_holding {L : Listeners σ α β} {svc : Service σ} {r : Run α β} {ctx : CallContext}
    {chunk : List α} {n : UInt32} (hw : r.workers = [⟨ctx, .holding chunk n⟩])
    (ha : r.aborted = false) (fuel : Nat) :
    r.settle L svc 0 (fuel + 1) = (do
      let res ← ((r.endpoint.bulkCall svc chunk).run.run ctx : StateM σ _)
      let r' ← r.afterCall L 0 chunk n res
      r'.settle L svc 0 fuel) := by
  simp [settle, holding, workStep, attempt, hw, ha]

end Run

structure Shows (r : Run α β) (c : Chunked α) (p : Phase α) : Prop where
  queue : r.queue = c.pending
  workers : r.workers = [⟨c.context, p⟩]
  failure : r.failure = c.standing.cause
  aborted : r.aborted = c.standing.cause.isSome
  calls : r.calls = c.calls
  retries : r.retries = c.retries
  skipped : r.skipped = c.skipped

structure Run.Keeps (r r' : Run α β) : Prop where
  queue : r'.queue = r.queue
  endpoint : r'.endpoint = r.endpoint
  batchSize : r'.batchSize = r.batchSize
  pooled : r'.pooled = r.pooled
  closed : r'.closed = r.closed
  live : r'.live = r.live

theorem Run.Keeps.trans {r r' r'' : Run α β} (h : r.Keeps r') (h' : r'.Keeps r'') : r.Keeps r'' :=
  ⟨h'.queue.trans h.queue, h'.endpoint.trans h.endpoint, h'.batchSize.trans h.batchSize,
    h'.pooled.trans h.pooled, h'.closed.trans h.closed, h'.live.trans h.live⟩

section Send

variable {e : Endpoint α β} {L : Listeners σ α β} {svc : Service σ}

theorem settle_shown {r r' : Run α β} {c : Chunked α} (hk : r.Keeps r')
    (hs : Shows r' c c.standing.phase) (fuel : Nat) (s : σ) :
    Agree (fun r' c' => r.Keeps r' ∧ Shows r' c' c'.standing.phase)
      ((r'.settle L svc 0 fuel).run s) ((pure c : Act σ (Chunked α)).run s) := by
  have hh : r'.holding 0 = false := by
    cases h : c.standing <;> simp [Run.holding, hs.workers, h, Standing.phase]
  rw [Run.settle_idle hh]
  exact agree_pure ⟨hk, hs⟩

theorem Shows.abort {r : Run α β} {c : Chunked α} {p : Phase α} (hp : r.pooled = false)
    (hs : Shows r c p) (err : Error) :
    r.Keeps (((r.setContext 0 c.context).abort err).leave 0 .stopped) ∧
      Shows (((r.setContext 0 c.context).abort err).leave 0 .stopped)
        { c with standing := .aborted err } (Standing.aborted err).phase := by
  refine ⟨by constructor <;> simp [Run.leave, Run.abort, Run.setPhase, Run.setContext, hp], ?_⟩
  constructor <;> simp [Run.leave, Run.abort, Run.setPhase, Run.setContext, hp, hs.queue,
    hs.workers, hs.failure, hs.aborted, hs.calls, hs.retries, hs.skipped, Standing.phase,
    Standing.cause]

theorem settle_send (hin : e.style.takesInput = true)
    (hf : e.decl.endpointState.isSome → e.decl.returns.isSome) (chunk : List α) (fuel : Nat) :
    ∀ (n : UInt32) (c : Chunked α) (r : Run α β) (s : σ), r.endpoint = e → r.pooled = false →
      c.standing = .going → Shows r c (.holding chunk n) →
      Agree (fun r' c' => r.Keeps r' ∧ Shows r' c' c'.standing.phase)
        ((r.settle L svc 0 fuel).run s) ((c.send e L svc chunk n fuel).run s) := by
  induction fuel with
  | zero =>
    intro n c r s _ _ _ hs
    have hh : r.holding 0 = true := by simp [Run.holding, hs.workers]
    simp only [Run.settle, hh, ↓reduceIte, Chunked.send]
    exact agree_throw _
  | succ fuel ih =>
    intro n c r s he hp hg hs
    have ha : r.aborted = false := by rw [hs.aborted, hg]; rfl
    rw [Run.settle_holding hs.workers ha, he]
    simp only [Chunked.send]
    apply agree_bind_same
    rintro ⟨res, ctx'⟩ s₁ hcall
    rw [act_run_lift] at hcall
    obtain ⟨hkeep, hmore⟩ := bulkCall_input hin hf (Prod.ext (Except.ok.inj (Prod.mk.inj hcall).1)
      (Prod.mk.inj hcall).2)
    rcases res with err | ⟨outs, more⟩
    · obtain rfl := hkeep err rfl
      simp only [Run.afterCall, Run.afterFailure, bind_assoc]
      cases hcfg : err.isConfiguration
      case true =>
        simp only [Listeners.verdict, hcfg, ↓reduceIte, liftM_pure, pure_bind, Run.afterVerdict]
        exact settle_shown (hs.abort hp err).1 (hs.abort hp err).2 _ _
      case false =>
        cases hL : L.onError with
        | none =>
          simp only [Listeners.verdict, hcfg, hL, Bool.false_eq_true, ↓reduceIte, liftM_pure,
            pure_bind, Run.afterVerdict]
          exact settle_shown (hs.abort hp err).1 (hs.abort hp err).2 _ _
        | some f =>
          simp only [Listeners.verdict, hcfg, hL, Bool.false_eq_true, ↓reduceIte, liftM_map,
            bind_map_left]
          apply agree_bind_same
          intro v s₂ _
          rcases v with ⟨_ | _ | _ | _⟩ | t
          case dispose.retry =>
            simp only [Run.afterVerdict]
            have hk : r.Keeps ({ r.setContext 0 c.context with retries := r.retries + 1 }.setPhase 0
                (.holding chunk (saturatingSucc n))) := by
              constructor <;> simp [Run.setPhase, Run.setContext]
            refine (ih (saturatingSucc n) { c with retries := c.retries + 1 } _ s₂
              (by simp [Run.setPhase, Run.setContext, he])
              (by simp [Run.setPhase, Run.setContext, hp]) hg ?_).mono
              fun r' c' h => ⟨hk.trans h.1, h.2⟩
            constructor <;> simp [Run.setPhase, Run.setContext, hs.queue, hs.workers, hs.failure,
              hs.aborted, hs.calls, hs.retries, hs.skipped]
          case dispose.skip =>
            have hin' : (r.setContext 0 c.context).endpoint.style.takesInput = true := by
              simp [Run.setContext, he, hin]
            simp only [Run.afterVerdict, hin', ↓reduceIte]
            exact settle_shown (by constructor <;> simp [Run.setPhase, Run.setContext])
              (by constructor <;> simp [Run.setPhase, Run.setContext, hs.queue, hs.workers,
                hs.failure, hs.aborted, hs.calls, hs.retries, hs.skipped, hg, Standing.phase,
                Standing.cause]) _ _
          case dispose.stopWorker =>
            simp only [Run.afterVerdict]
            exact settle_shown
              (by constructor <;> simp [Run.leave, Run.setPhase, Run.setContext, hp])
              (by constructor <;> simp [Run.leave, Run.setPhase, Run.setContext, hp, hs.queue,
                hs.workers, hs.failure, hs.aborted, hs.calls, hs.retries, hs.skipped, hg,
                Standing.phase, Standing.cause]) _ _
          case dispose.stopAll =>
            simp only [Run.afterVerdict]
            exact settle_shown (hs.abort hp err).1 (hs.abort hp err).2 _ _
          case fail =>
            have hp' : (r.setContext 0 c.context).pooled = false := by simp [Run.setContext, hp]
            simp only [Run.afterVerdict, Run.afterPanic, Run.halting, hp', Bool.false_eq_true,
              ↓reduceIte, ExceptT.bind_throw]
            exact agree_throw _
    · obtain rfl := hmore outs more rfl
      simp only [Run.afterCall, bind_assoc]
      apply agree_bind_same
      intro x s₂ _
      cases x with
      | panicked t =>
        have hp' : ({ r with calls := r.calls + 1 }.setContext 0 ctx').pooled = false := by
          simp [Run.setContext, hp]
        simp only [Run.afterPanic, Run.halting, hp', Bool.false_eq_true, ↓reduceIte,
          ExceptT.bind_throw]
        exact agree_throw _
      | returned =>
      simp only [↓reduceIte, pure_bind]
      exact settle_shown (by constructor <;> simp [Run.setPhase, Run.setContext])
        (by constructor <;> simp [Run.setPhase, Run.setContext, hs.queue, hs.workers, hs.failure,
          hs.aborted, hs.calls, hs.retries, hs.skipped, hg, Standing.phase, Standing.cause]) _ _

/-- An inline run between two accepts mirrors the chunk-by-chunk reference. -/
structure Mirrors (e : Endpoint α β) (b : Nat) (r : Run α β) (c : Chunked α) : Prop where
  endpoint : r.endpoint = e
  batchSize : r.batchSize = b
  inline : r.pooled = false
  accepting : r.closed = false
  live : r.live = c.standing.live
  short : c.pending.length < b
  shows : Shows r c c.standing.phase

theorem Shows.restage {r : Run α β} {c : Chunked α} {p : Phase α} (hs : Shows r c p) (st : Stage)
    (cl : Bool) : Shows { r with stage := st, closed := cl } c p :=
  ⟨hs.queue, hs.workers, hs.failure, hs.aborted, hs.calls, hs.retries, hs.skipped⟩

theorem Mirrors.restage {e : Endpoint α β} {b : Nat} {r : Run α β} {c : Chunked α}
    (hm : Mirrors e b r c) (st : Stage) : Mirrors e b { r with stage := st } c :=
  ⟨hm.endpoint, hm.batchSize, hm.inline, hm.accepting, hm.live, hm.short,
    hm.shows.restage st r.closed⟩

theorem Mirrors.of_shows {b : Nat} {r : Run α β} {c : Chunked α} (hs : Shows r c c.standing.phase)
    (he : r.endpoint = e) (hb : r.batchSize = b) (hp : r.pooled = false) (hcl : r.closed = false)
    (hq : r.queue = []) (hlive : r.live = c.standing.live) : Mirrors e b r c := by
  refine ⟨he, hb, hp, hcl, hlive, ?_, hs⟩
  rw [← hs.queue, hq, ← hb]
  exact r.batchSize_pos

theorem offer_mirrors (hin : e.style.takesInput = true)
    (hf : e.decl.endpointState.isSome → e.decl.returns.isSome) {b budget : Nat} {r : Run α β}
    {c : Chunked α} (hm : Mirrors e b r c) (x : α) (s : σ) :
    Agree (fun (p : Intake × Run α β) (q : Except Error Unit × Chunked α) =>
        ((p.1 = .queued ∧ q.1 = .ok ()) ∨ ∃ err, p.1 = .refused err ∧ q.1 = .error err) ∧
          Mirrors e b p.2 q.2)
      ((r.offer L svc budget x).run s) ((c.accept e L svc b budget x).run s) := by
  obtain ⟨st, hst⟩ := Run.start_inline (L := L) hm.inline
  have hin' : r.endpoint.style.takesInput = true := by rw [hm.endpoint]; exact hin
  have hm₁ : Mirrors e b { r with stage := st } c := hm.restage st
  unfold Run.offer Chunked.accept
  simp only [hin', Bool.not_true, Bool.false_eq_true, ↓reduceIte, hst]
  unfold Run.enqueue
  generalize { r with stage := st } = r₁ at hm₁ ⊢
  obtain ⟨he, hb, hp, hcl, hlv, hshort, hs⟩ := hm₁
  obtain ⟨ctx, pend, std, ca, re, sk⟩ := c
  cases std with
  | aborted err =>
    dsimp only
    have hab : r₁.aborted = true := by simp [hs.aborted, Standing.cause]
    rw [if_pos hab]
    exact agree_pure ⟨.inr ⟨_, rfl, by simp [Run.abortedError, hs.failure, Standing.cause]⟩,
      ⟨he, hb, hp, hcl, hlv, hshort, hs⟩⟩
  | stopped =>
    dsimp only
    have hab : r₁.aborted = false := by simp [hs.aborted, Standing.cause]
    rw [if_neg (by simp [hab]), if_neg (by simp [hcl]), if_pos (show r₁.live = 0 from hlv)]
    exact agree_pure ⟨.inr ⟨_, rfl, rfl⟩, ⟨he, hb, hp, hcl, hlv, hshort, hs⟩⟩
  | going =>
    dsimp only
    have hab : r₁.aborted = false := by simp [hs.aborted, Standing.cause]
    have hlive : r₁.live ≠ 0 := by simp [hlv, Standing.live]
    have hroom : ¬ r₁.capacity ≤ r₁.queue.length := by
      have := r₁.batchSize_le
      rw [hs.queue]
      rw [hb] at this
      omega
    rw [if_neg (by simp [hab]), if_neg (by simp [hcl]), if_neg hlive, if_neg hroom]
    have hcut : (decide ((r₁.queue ++ [x]).length < r₁.batchSize) || r₁.pooled) =
        decide (pend.length + 1 < b) := by
      simp [hs.queue, hb, hp]
    rw [hcut]
    by_cases hlt : pend.length + 1 < b
    · rw [if_pos (by simpa using hlt), if_pos hlt]
      refine agree_pure ⟨.inl ⟨rfl, rfl⟩, ⟨he, hb, hp, hcl, hlv, by simpa using hlt, ?_⟩⟩
      exact ⟨by simp [hs.queue], hs.workers, hs.failure, hs.aborted, hs.calls, hs.retries,
        hs.skipped⟩
    · rw [if_neg (by simpa using hlt), if_neg hlt]
      have hq : r₁.queue = pend := hs.queue
      rw [hq]
      refine agree_bind (settle_send hin hf (pend ++ [x]) budget 0 _ _ s
        (by simp [Run.setPhase, he]) (by simp [Run.setPhase, hp]) rfl ?_) ?_
      · constructor <;> simp [Run.setPhase, hs.workers, hs.failure, hs.aborted, hs.calls,
          hs.retries, hs.skipped, Standing.phase, Standing.cause]
      rintro r₂ ⟨ctx₂, pend₂, std₂, ca₂, re₂, sk₂⟩ s₂ ⟨hk, hs₂⟩
      have he₂ : r₂.endpoint = e := by rw [hk.endpoint]; simp [Run.setPhase, he]
      have hb₂ : r₂.batchSize = b := by rw [hk.batchSize]; simp [Run.setPhase, hb]
      have hp₂ : r₂.pooled = false := by rw [hk.pooled]; simp [Run.setPhase, hp]
      have hcl₂ : r₂.closed = false := by rw [hk.closed]; simp [Run.setPhase, hcl]
      have hq₂ : r₂.queue = [] := by rw [hk.queue]; simp [Run.setPhase]
      have hlv₂ : r₂.live = 1 := by rw [hk.live]; simpa [Run.setPhase, Standing.live] using hlv
      rw [hs₂.workers]
      cases std₂ with
      | going =>
        dsimp only
        simp only [List.getElem?_cons_zero, Standing.phase]
        exact agree_pure ⟨.inl ⟨rfl, rfl⟩, Mirrors.of_shows hs₂ he₂ hb₂ hp₂ hcl₂ hq₂ hlv₂⟩
      | stopped =>
        dsimp only
        have hab₂ : r₂.aborted = false := by simp [hs₂.aborted, Standing.cause]
        simp only [List.getElem?_cons_zero, Standing.phase, hab₂, Bool.false_eq_true, ↓reduceIte]
        exact agree_pure ⟨.inl ⟨rfl, rfl⟩, Mirrors.of_shows
          ⟨hs₂.queue, rfl, hs₂.failure, rfl, hs₂.calls, hs₂.retries, hs₂.skipped⟩ he₂ hb₂ hp₂ hcl₂
          hq₂ rfl⟩
      | aborted err =>
        dsimp only
        have hab₂ : r₂.aborted = true := by simp [hs₂.aborted, Standing.cause]
        simp only [List.getElem?_cons_zero, Standing.phase, hab₂, ↓reduceIte]
        exact agree_pure ⟨.inr ⟨_, rfl, by simp [Run.abortedError, hs₂.failure, Standing.cause]⟩,
          Mirrors.of_shows hs₂ he₂ hb₂ hp₂ hcl₂ hq₂ hlv₂⟩

theorem accept_mirrors (hin : e.style.takesInput = true)
    (hf : e.decl.endpointState.isSome → e.decl.returns.isSome) {b budget : Nat} {r : Run α β}
    {c : Chunked α} (hm : Mirrors e b r c) (x : α) (s : σ) :
    Agree (fun (p : Except Error Unit × Run α β) (q : Except Error Unit × Chunked α) =>
        p.1 = q.1 ∧ Mirrors e b p.2 q.2)
      ((r.accept L svc budget x).run s) ((c.accept e L svc b budget x).run s) := by
  unfold Run.accept
  rw [Run.accept.go, ← bind_pure (Chunked.accept e L svc b budget x c)]
  refine agree_bind (offer_mirrors hin hf hm x s) ?_
  rintro ⟨res, r'⟩ ⟨ans, c'⟩ s' ⟨hres, hm'⟩
  rcases hres with ⟨rfl, rfl⟩ | ⟨err, rfl, rfl⟩
  · exact agree_pure ⟨rfl, hm'⟩
  · exact agree_pure ⟨rfl, hm'⟩

theorem finish_shows {r : Run α β} {c : Chunked α} {p : Phase α} (hs : Shows r c p) :
    r.finish.1 = c.outcome := by
  unfold Run.finish Chunked.outcome
  cases h : c.standing <;>
    simp [Run.abortedError, hs.failure, hs.aborted, hs.calls, hs.retries, hs.skipped, hs.queue,
      hs.workers, h, Standing.cause]

theorem runWorker_drained (L : Listeners σ α β) (svc : Service σ) (budget : Nat) {r : Run α β}
    {ctx : CallContext} {p : Phase α}
    (hin : r.endpoint.style.takesInput = true) (hp : r.pooled = false) (hcl : r.closed = true)
    (hq : r.aborted = true ∨ r.queue = []) (hw : r.workers = [⟨ctx, p⟩])
    (hph : p = .ready ∨ p = .stopped) (fuel : Nat) :
    ∃ r', r.runWorker L svc budget 0 (fuel + 1) = pure r' ∧ r'.finish.1 = r.finish.1 := by
  rcases hph with rfl | rfl
  · have hgone : r.gone 0 = false := by simp [Run.gone, hw, Phase.isGone]
    have htake : r.takeBatch 0 = r.leave 0 .finished := by
      unfold Run.takeBatch
      rcases hq with hab | hq
      · simp [hin, hab]
      · have := r.batchSize_pos
        simp [hin, hq, hcl, Run.batchReady]
        omega
    have hw' : (r.leave 0 .finished).workers = [⟨ctx, .finished⟩] := by
      simp [Run.leave, Run.setPhase, hp, hw]
    refine ⟨r.leave 0 .finished, ?_, ?_⟩
    · rw [Run.runWorker, if_neg (by simp [hgone]), htake,
        Run.settle_idle (by simp [Run.holding, hw']), pure_bind,
        Run.runWorker_gone (by simp [Run.gone, hw', Phase.isGone])]
    · have hab : (r.leave 0 .finished).aborted = r.aborted := by
        simp [Run.leave, Run.setPhase, hp]
      unfold Run.finish
      rw [hab]
      cases r.aborted <;> simp [Run.leave, Run.setPhase, Run.abortedError, hp, hw]
  · exact ⟨r, Run.runWorker_gone (by simp [Run.gone, hw, Phase.isGone]) _, rfl⟩

theorem Standing.phase_done (st : Standing) :
    (st.phase : Phase α) = .ready ∨ (st.phase : Phase α) = .stopped := by
  cases st <;> simp [Standing.phase]

theorem Shows.setPhase {r : Run α β} {c : Chunked α} {p : Phase α} (hs : Shows r c p)
    (q : Phase α) : Shows (r.setPhase 0 q) c q := by
  constructor <;> simp [Run.setPhase, hs.queue, hs.workers, hs.failure, hs.aborted, hs.calls,
    hs.retries, hs.skipped]

theorem await_mirrors (hin : e.style.takesInput = true)
    (hf : e.decl.endpointState.isSome → e.decl.returns.isSome) {b budget : Nat} {r : Run α β}
    {c : Chunked α} (hm : Mirrors e b r c) (s : σ) :
    (Prod.fst <$> r.await L svc budget).run s = (c.await e L svc budget).run s := by
  obtain ⟨st, hcl⟩ := Run.close_inline (L := L) hm.inline
  have hsc : Shows { r with stage := st, closed := true } c c.standing.phase :=
    hm.shows.restage st true
  have hpc : ({ r with stage := st, closed := true } : Run α β).pooled = false := hm.inline
  have hclc : ({ r with stage := st, closed := true } : Run α β).closed = true := rfl
  have hlc : ({ r with stage := st, closed := true } : Run α β).live = c.standing.live := hm.live
  have hec : ({ r with stage := st, closed := true } : Run α β).endpoint = e := hm.endpoint
  have hbc : ({ r with stage := st, closed := true } : Run α β).batchSize = b := hm.batchSize
  have hshort := hm.short
  unfold Run.await Chunked.await
  rw [hcl]
  dsimp only
  unfold Run.drain
  generalize ({ r with stage := st, closed := true } : Run α β) = rc at hsc hpc hclc hlc hec hbc ⊢
  have hin' : rc.endpoint.style.takesInput = true := by rw [hec]; exact hin
  simp only [hpc, Bool.false_eq_true, ↓reduceIte]
  obtain ⟨ctx, pend, std, ca, re, sk⟩ := c
  have hdrained : (rc.aborted = true ∨ rc.queue = []) →
      (Prod.fst <$> ((rc.setPhase 0 .ready).runWorker L svc budget 0 (rc.queue.length + budget + 1)
        >>= fun r => pure r.finish)).run s =
        (pure (Chunked.outcome ⟨ctx, pend, std, ca, re, sk⟩) : Act σ _).run s := by
    intro hq
    obtain ⟨r', hr', hfin⟩ := runWorker_drained L svc budget (by simpa [Run.setPhase] using hin')
      (by simpa [Run.setPhase] using hpc) (by simpa [Run.setPhase] using hclc)
      (by simpa [Run.setPhase, Run.aborted] using hq) (hsc.setPhase .ready).workers (.inl rfl)
      (rc.queue.length + budget)
    rw [hr', pure_bind, map_pure, hfin, finish_shows (hsc.setPhase .ready)]
  cases std with
  | stopped =>
    simp only [show ¬ 0 < rc.live by simp [hlc, Standing.live], ↓reduceIte, pure_bind, map_pure]
    rw [finish_shows hsc]
  | aborted err =>
    simp only [show 0 < rc.live by simp [hlc, Standing.live], ↓reduceIte, pure_bind]
    exact hdrained (.inl (by simp [hsc.aborted, Standing.cause]))
  | going =>
    simp only [show 0 < rc.live by simp [hlc, Standing.live], ↓reduceIte]
    cases pend with
    | nil =>
      simp only [pure_bind]
      exact hdrained (.inr hsc.queue)
    | cons p ps =>
      dsimp only
      have hq : rc.queue = p :: ps := hsc.queue
      have hr₁ := hsc.setPhase .ready
      have htake : (rc.setPhase 0 .ready).takeBatch 0 =
          ({ rc.setPhase 0 .ready with queue := [] }).setPhase 0 (.holding (p :: ps) 0) := by
        have hlen : (p :: ps).length ≤ rc.batchSize := by rw [hbc]; exact Nat.le_of_lt hshort
        have hab : (rc.setPhase 0 .ready).aborted = false := by
          simp [Run.setPhase, hsc.failure, hsc.aborted, Standing.cause]
        unfold Run.takeBatch
        rw [if_neg (by simp [Run.setPhase, hin']), if_neg (by simp [hab]),
          if_pos (by simp [Run.batchReady, Run.setPhase, hq, hclc])]
        simp only [Run.setPhase, hq, List.take_of_length_le hlen, List.drop_of_length_le hlen]
      have hhold : Shows (({ rc.setPhase 0 .ready with queue := [] }).setPhase 0
          (.holding (p :: ps) 0)) ⟨ctx, [], .going, ca, re, sk⟩ (.holding (p :: ps) 0) := by
        constructor <;> simp [Run.setPhase, hsc.workers, hsc.failure, hsc.aborted, hsc.calls,
          hsc.retries, hsc.skipped, Standing.cause]
      rw [hq, List.length_cons, Run.runWorker,
        if_neg (by simp [Run.gone, hr₁.workers, Phase.isGone]), htake]
      simp only [map_bind, map_pure, bind_assoc]
      apply Agree.eq
      refine agree_bind (settle_send hin hf (p :: ps) budget 0 _ _ s (by simp [Run.setPhase, hec])
        (by simp [Run.setPhase, hpc]) rfl hhold) ?_
      rintro r₂ c₂ s₂ ⟨hk, hs₂⟩
      obtain ⟨r₃, hr₃, hfin⟩ := runWorker_drained L svc budget
        (by rw [hk.endpoint]; simpa [Run.setPhase] using hin')
        (by rw [hk.pooled]; simpa [Run.setPhase] using hpc)
        (by rw [hk.closed]; simpa [Run.setPhase] using hclc)
        (.inr (by rw [hk.queue]; simp [Run.setPhase])) hs₂.workers (Standing.phase_done _)
        (ps.length + budget)
      rw [show ps.length + 1 + budget = ps.length + budget + 1 by omega, hr₃, pure_bind]
      exact agree_pure (hfin.trans (finish_shows hs₂))

end Send

theorem feedThenAwait_agree {S T : Type} (R : S → T → Prop)
    {acc₁ : α → S → Act σ (Except Error Unit × S)} {acc₂ : α → T → Act σ (Except Error Unit × T)}
    {fin₁ : S → Act σ (Except Error Report)} {fin₂ : T → Act σ (Except Error Report)}
    (hacc : ∀ x a b s, R a b →
      Agree (fun p q => p.1 = q.1 ∧ R p.2 q.2) ((acc₁ x a).run s) ((acc₂ x b).run s))
    (hfin : ∀ a b s, R a b → (fin₁ a).run s = (fin₂ b).run s) (xs : List α) :
    ∀ a b, R a b → feedThenAwait acc₁ fin₁ xs a = feedThenAwait acc₂ fin₂ xs b := by
  induction xs with
  | nil =>
    intro a b hab
    refine act_ext fun s => ?_
    simp only [feedThenAwait]
    rw [act_run_bind, act_run_bind, hfin a b s hab]
  | cons x xs ih =>
    intro a b hab
    refine act_ext fun s => Agree.eq ?_
    simp only [feedThenAwait]
    refine agree_bind (hacc x a b s hab) ?_
    rintro ⟨res, a'⟩ ⟨res', b'⟩ s' ⟨hres, hr⟩
    dsimp only at hres ⊢
    rw [hres, ih a' b' hr]
    exact agree_of_eq rfl

theorem Run.new_inline {e : Endpoint α β} {ctx : CallContext} {r : Run α β}
    (h : Run.new e (.inline ctx) = .ok r) :
    Mirrors e (max e.decl.batchSize 1) r { context := ctx } := by
  unfold Run.new at h
  cases hc : e.style.check e.decl with
  | error err =>
    rw [hc] at h
    cases h
  | ok u =>
    simp only [hc, bind, Except.bind, pure, Except.pure, Except.ok.injEq] at h
    subst h
    exact ⟨rfl, rfl, rfl, rfl, rfl, Nat.lt_of_lt_of_le Nat.one_pos (Nat.le_max_right _ _),
      ⟨rfl, rfl, rfl, rfl, rfl, rfl, rfl⟩⟩

/-- An inline run answers as the chunk-by-chunk reference does. -/
theorem inline_run_follows_chunks {j : Json} {hi : Option (Handle α)} {ho : Option (Handle β)}
    {e : Endpoint α β} {ctx : CallContext} {r : Run α β}
    (hnew : Caller.new j hi ho = .ok e.caller) (hin : e.style.takesInput = true)
    (hrun : Run.new e (.inline ctx) = .ok r) (L : Listeners σ α β) (svc : Service σ)
    (budget : Nat) (xs : List α) :
    feedThenAwait (fun x r => r.accept L svc budget x) (fun r => Prod.fst <$> r.await L svc budget)
        xs r =
      feedThenAwait (Chunked.accept e L svc (max e.decl.batchSize 1) budget)
        (Chunked.await e L svc budget) xs { context := ctx } := by
  have hf : e.decl.endpointState.isSome → e.decl.returns.isSome :=
    Declaration.parse_state_returns (Caller.new_decl hnew)
  exact feedThenAwait_agree (Mirrors e (max e.decl.batchSize 1))
    (fun x _ _ s hm => accept_mirrors hin hf hm x s) (fun _ _ s hm => await_mirrors hin hf hm s)
    xs r _ (Run.new_inline hrun)

theorem inline_run_chunks_of_two :
    ∃ (e : Endpoint (List UInt8) (List UInt8)) (r : Run (List UInt8) (List UInt8)),
      Endpoint.inputOutput (.obj [("$bulk", .obj [("inputBatchSize", .num (.int 2))]),
        ("endpoint", .str "/p.sjs"),
        ("params", .arr [
          .obj [("datatype", .str "binaryDocument"), ("multiple", .bool false),
            ("name", .str "endpointState"), ("nullable", .bool true)],
          .obj [("datatype", .str "binaryDocument"), ("multiple", .bool true),
            ("name", .str "input"), ("nullable", .bool true)]]),
        ("return", .obj [("datatype", .str "binaryDocument"), ("multiple", .bool true),
          ("nullable", .bool true)])]) Handle.bytes Handle.bytes {} = .ok e ∧
      Run.new e (.inline {}) = .ok r ∧
      feedThenAwait (fun x r => r.accept Listeners.retrying Service.scripted 4 x)
          (fun r => Prod.fst <$> r.await Listeners.retrying Service.scripted 4) [[1], [2], [3]] r =
        feedThenAwait
          (Chunked.accept e Listeners.retrying Service.scripted (max e.decl.batchSize 1) 4)
          (Chunked.await e Listeners.retrying Service.scripted 4) [[1], [2], [3]]
          { context := {} } ∧
      (feedThenAwait
          (Chunked.accept e Listeners.retrying Service.scripted (max e.decl.batchSize 1) 4)
          (Chunked.await e Listeners.retrying Service.scripted 4) [[1], [2], [3]]
          { context := {} }).run
        [.failure (.transport "down"), .multiple [⟨none, [5]⟩, ⟨none, [7]⟩],
          .multiple [⟨none, [6]⟩, ⟨none, [8]⟩]] =
        (.ok ([.ok (), .ok (), .ok ()], .ok ⟨2, 1, 0, 0, [{ endpointState := some [6] }]⟩),
          []) := by
  obtain ⟨e, r, he, hnew, hval⟩ :
      ∃ (e : Endpoint (List UInt8) (List UInt8)) (r : Run (List UInt8) (List UInt8)),
      Endpoint.inputOutput (.obj [("$bulk", .obj [("inputBatchSize", .num (.int 2))]),
        ("endpoint", .str "/p.sjs"),
        ("params", .arr [
          .obj [("datatype", .str "binaryDocument"), ("multiple", .bool false),
            ("name", .str "endpointState"), ("nullable", .bool true)],
          .obj [("datatype", .str "binaryDocument"), ("multiple", .bool true),
            ("name", .str "input"), ("nullable", .bool true)]]),
        ("return", .obj [("datatype", .str "binaryDocument"), ("multiple", .bool true),
          ("nullable", .bool true)])]) Handle.bytes Handle.bytes {} = .ok e ∧
      Run.new e (.inline {}) = .ok r ∧
      (feedThenAwait
          (Chunked.accept e Listeners.retrying Service.scripted (max e.decl.batchSize 1) 4)
          (Chunked.await e Listeners.retrying Service.scripted 4) [[1], [2], [3]]
          { context := {} }).run
        [.failure (.transport "down"), .multiple [⟨none, [5]⟩, ⟨none, [7]⟩],
          .multiple [⟨none, [6]⟩, ⟨none, [8]⟩]] =
        (.ok ([.ok (), .ok (), .ok ()], .ok ⟨2, 1, 0, 0, [{ endpointState := some [6] }]⟩), []) :=
    ⟨_, _, rfl, rfl, rfl⟩
  obtain ⟨hcaller, hstyle⟩ := Endpoint.facade_ok he
  exact ⟨e, r, he, hnew,
    inline_run_follows_chunks hcaller (by rw [hstyle]; rfl) hnew _ _ 4 _, hval⟩

end EndpointCall.Bulk
