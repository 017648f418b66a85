import EndpointCall.Proofs.BulkAwait
import EndpointCall.Proofs.BulkWorkers
import EndpointCall.Proofs.BulkInline
import Mathlib.Logic.Relation
/-! The lifecycle of a bulk run. -/
namespace EndpointCall.Bulk

variable {α β σ : Type}

/-! ### Stages -/

/-- One move of a run's stage. -/
inductive Stage.Step : Stage → Stage → Prop
  | start : Stage.Step .idle .accepting
  | drain : Stage.Step .accepting .draining
  | complete : Stage.Step .draining .completed
  | abortAccepting : Stage.Step .accepting .aborted
  | abortDraining : Stage.Step .draining .aborted

namespace Stage

theorem eq_aborted_of_reaches {st : Stage} (h : Relation.ReflTransGen Step .aborted st) :
    st = .aborted := by
  induction h with
  | refl => rfl
  | tail _ hs ih => subst ih; cases hs

theorem reaches_aborted {st : Stage} (h : st ≠ .completed) :
    Relation.ReflTransGen Step st .aborted := by
  cases st with
  | idle => exact .tail (.single .start) .abortAccepting
  | accepting => exact .single .abortAccepting
  | draining => exact .single .abortDraining
  | completed => exact absurd rfl h
  | aborted => exact .refl

end Stage

namespace Run

/-! ### What the workers do to the lifecycle -/

structure Follows (r r' : Run α β) : Prop where
  lifecycle : (r'.stage = r.stage ∧ r'.aborted = r.aborted ∧ r'.failure = r.failure) ∨
    (r'.stage = .aborted ∧ r'.aborted = true ∧ r'.failure.isSome)
  endpoint : r'.endpoint = r.endpoint
  pooled : r'.pooled = r.pooled
  closed : r'.closed = r.closed
  started : r'.started = r.started

namespace Follows

variable {r r' r'' : Run α β}

theorem refl (r : Run α β) : r.Follows r := ⟨.inl ⟨rfl, rfl, rfl⟩, rfl, rfl, rfl, rfl⟩

theorem keep (hst : r'.stage = r.stage) (ha : r'.aborted = r.aborted)
    (hf : r'.failure = r.failure) (he : r'.endpoint = r.endpoint) (hp : r'.pooled = r.pooled)
    (hc : r'.closed = r.closed) (hs : r'.started = r.started) : r.Follows r' :=
  ⟨.inl ⟨hst, ha, hf⟩, he, hp, hc, hs⟩

theorem trans (h : r.Follows r') (h' : r'.Follows r'') : r.Follows r'' := by
  refine ⟨?_, h'.endpoint.trans h.endpoint, h'.pooled.trans h.pooled, h'.closed.trans h.closed,
    h'.started.trans h.started⟩
  rcases h'.lifecycle with ⟨hs', ha', hf'⟩ | hab
  · rcases h.lifecycle with ⟨hs, ha, hf⟩ | ⟨hs, ha, hf⟩
    · exact .inl ⟨hs'.trans hs, ha'.trans ha, hf'.trans hf⟩
    · exact .inr ⟨hs'.trans hs, ha'.trans ha, hf' ▸ hf⟩
  · exact .inr hab

theorem aborted (h : r.Follows r') (ha : r.aborted = true) : r'.aborted = true := by
  rcases h.lifecycle with ⟨-, ha', -⟩ | ⟨-, ha', -⟩
  · rw [ha', ha]
  · exact ha'

theorem aligned (h : r.Follows r') (hal : r.aborted = true ↔ r.stage = .aborted) :
    r'.aborted = true ↔ r'.stage = .aborted := by
  rcases h.lifecycle with ⟨hs, ha, -⟩ | ⟨hs, ha, -⟩
  · rw [hs, ha]
    exact hal
  · exact ⟨fun _ => hs, fun _ => ha⟩

theorem failed (h : r.Follows r') (hf : r.aborted = true → r.failure.isSome) :
    r'.aborted = true → r'.failure.isSome := by
  rcases h.lifecycle with ⟨-, ha, hf'⟩ | ⟨-, -, hf'⟩
  · rw [ha, hf']
    exact hf
  · exact fun _ => hf'

theorem setPhase (r : Run α β) (i : Nat) (p : Phase α) : r.Follows (r.setPhase i p) :=
  keep rfl rfl rfl rfl rfl rfl rfl

theorem setContext (r : Run α β) (i : Nat) (ctx : CallContext) :
    r.Follows (r.setContext i ctx) :=
  keep rfl rfl rfl rfl rfl rfl rfl

theorem leave (r : Run α β) (i : Nat) (p : Phase α) : r.Follows (r.leave i p) := by
  obtain ⟨lv, h⟩ := leave_eq r i p
  rw [h]
  exact keep rfl rfl rfl rfl rfl rfl rfl

theorem abort (r : Run α β) (e : Error) : r.Follows (r.abort e) :=
  ⟨.inr ⟨rfl, rfl, rfl⟩, rfl, rfl, rfl, rfl⟩

theorem takeBatch (r : Run α β) (i : Nat) : r.Follows (r.takeBatch i) := by
  unfold Run.takeBatch
  repeat' split
  all_goals first
    | exact setPhase _ _ _
    | exact leave _ _ _
    | exact refl _
    | exact keep rfl rfl rfl rfl rfl rfl rfl

end Follows

theorem Follows.stepwise : Stepwise (Follows (α := α) (β := β)) where
  refl := Follows.refl
  trans := Follows.trans
  setPhase := Follows.setPhase
  setContext := Follows.setContext
  leave := Follows.leave
  abort := Follows.abort
  takeBatch := Follows.takeBatch
  sums _ _ _ _ := Follows.keep rfl rfl rfl rfl rfl rfl rfl

/-! ### Steps of a run -/

structure Advances (r r' : Run α β) : Prop where
  stage : Relation.ReflTransGen Stage.Step r.stage r'.stage
  aborted : r.aborted = true → r'.aborted = true

namespace Advances

variable {r r' r'' : Run α β}

theorem refl (r : Run α β) : r.Advances r := ⟨.refl, id⟩

theorem trans (h : r.Advances r') (h' : r'.Advances r'') : r.Advances r'' :=
  ⟨h.stage.trans h'.stage, h'.aborted ∘ h.aborted⟩

end Advances

theorem Follows.advances {r r' : Run α β} (h : r.Follows r') (hc : r.stage ≠ .completed) :
    r.Advances r' := by
  refine ⟨?_, h.aborted⟩
  rcases h.lifecycle with ⟨hs, -⟩ | ⟨hs, -⟩
  · rw [hs]
  · rw [hs]
    exact Stage.reaches_aborted hc

/-- The lifecycle invariant of a run that has not been awaited. -/
structure Wf (r : Run α β) : Prop where
  aborted_iff : r.aborted = true ↔ r.stage = .aborted
  failed : r.aborted = true → r.failure.isSome
  not_completed : r.stage ≠ .completed
  idle : r.stage = .idle → r.started = false
  started : r.pooled = true → r.aborted = true → r.started = true
  quiet : r.endpoint.style.takesInput = false → r.closed = false → r.aborted = false →
    r.started = false

variable {r r' : Run α β}

theorem Wf.follows (hw : r.Wf) (h : r.Follows r') (hst : r.pooled = true → r.started = true) :
    r'.Wf where
  aborted_iff := h.aligned hw.aborted_iff
  failed := h.failed hw.failed
  not_completed := by
    rcases h.lifecycle with ⟨hs, -⟩ | ⟨hs, -⟩
    · rw [hs]
      exact hw.not_completed
    · rw [hs]
      exact Stage.noConfusion
  idle := by
    intro hi
    rcases h.lifecycle with ⟨hs, -⟩ | ⟨hs, -⟩
    · rw [h.started]
      exact hw.idle (hs ▸ hi)
    · rw [hs] at hi
      cases hi
  started := fun hp _ => h.started ▸ hst (h.pooled ▸ hp)
  quiet := by
    intro hin hc ha
    rcases h.lifecycle with ⟨-, ha', -⟩ | ⟨-, ha', -⟩
    · rw [h.started]
      exact hw.quiet (h.endpoint ▸ hin) (h.closed ▸ hc) (ha' ▸ ha)
    · rw [ha'] at ha
      cases ha

theorem Wf.of_aborted (ha : r.aborted = true) (hs : r.stage = .aborted) (hf : r.failure.isSome)
    (hst : r.started = true) : r.Wf where
  aborted_iff := iff_of_true ha hs
  failed := fun _ => hf
  not_completed := by rw [hs]; exact Stage.noConfusion
  idle := fun hi => absurd (hs.symm.trans hi) Stage.noConfusion
  started := fun _ _ => hst
  quiet := fun _ _ h => absurd ha (by rw [h]; exact Bool.false_ne_true)

theorem Wf.restage (hw : r.Wf) {st : Stage} {sd c : Bool} {lv : Nat}
    (hal : r.aborted = true ↔ st = .aborted) (hc : st ≠ .completed) (hi : st ≠ .idle)
    (hsd : r.pooled = true → sd = true)
    (hq : r.endpoint.style.takesInput = false → c = false → r.aborted = false → sd = false) :
    ({ r with stage := st, started := sd, live := lv, closed := c } : Run α β).Wf :=
  ⟨hal, hw.failed, hc, fun h => absurd h hi, fun hp _ => hsd hp, hq⟩

section Start

variable {L : Listeners σ α β} {x : Except Error Unit}

theorem Wf.start_advances (hw : r.Wf) (h : r.start L = (x, r')) : r.Advances r' := by
  rcases x with e | ⟨⟩
  · obtain ⟨-, -, k, lv, rfl⟩ := start_error h
    exact ⟨Stage.reaches_aborted hw.not_completed, fun _ => rfl⟩
  · obtain ⟨lv, rfl⟩ := start_ok_eq h
    refine ⟨?_, id⟩
    dsimp only
    split
    · rename_i hi
      rw [hi]
      exact .single .start
    · exact .refl

theorem Wf.start (hw : r.Wf) (hin : r.endpoint.style.takesInput = true)
    (h : r.start L = (x, r')) : r'.Wf := by
  rcases x with e | ⟨⟩
  · obtain ⟨-, -, k, lv, rfl⟩ := start_error h
    exact .of_aborted rfl rfl rfl rfl
  · obtain ⟨lv, rfl⟩ := start_ok_eq h
    refine hw.restage ?_ ?_ ?_ (fun hp => by simp [hp]) fun h => absurd hin (by simp [h])
    all_goals split
    · rename_i hi
      have hal := hw.aborted_iff
      rw [hi] at hal
      simpa using hal
    · exact hw.aborted_iff
    · exact Stage.noConfusion
    · exact hw.not_completed
    · exact Stage.noConfusion
    · assumption

theorem Wf.close_advances (L : Listeners σ α β) (hw : r.Wf) : r.Advances (r.close L).2 := by
  generalize hc : r.close L = c
  obtain ⟨x, r'⟩ := c
  rcases x with e | ⟨⟩
  · exact hw.start_advances (close_error hc)
  · obtain ⟨lv, rfl⟩ := close_ok_eq hc
    refine ⟨?_, id⟩
    dsimp only
    split
    · rename_i ha
      rw [ha]
    · rename_i ha
      cases hs : r.stage with
      | idle => exact .tail (.single .start) .drain
      | accepting => exact .single .drain
      | draining => exact .refl
      | completed => exact absurd hs hw.not_completed
      | aborted => exact absurd hs ha

theorem Wf.close (L : Listeners σ α β) (hw : r.Wf) : (r.close L).2.Wf := by
  generalize hc : r.close L = c
  obtain ⟨x, r'⟩ := c
  rcases x with e | ⟨⟩
  · obtain ⟨-, -, k, lv, rfl⟩ := start_error (close_error hc)
    exact .of_aborted rfl rfl rfl rfl
  · obtain ⟨lv, rfl⟩ := close_ok_eq hc
    refine hw.restage ?_ ?_ ?_ (fun hp => by simp [hp]) fun _ h => Bool.noConfusion h
    all_goals split
    · rename_i ha
      exact iff_of_true (hw.aborted_iff.2 ha) rfl
    · rename_i ha
      exact iff_of_false (mt hw.aborted_iff.1 ha) Stage.noConfusion
    all_goals exact Stage.noConfusion

theorem close_ok_drains (h : r.close L = (.ok (), r')) :
    r'.stage = .draining ∨ r'.stage = .aborted := by
  obtain ⟨lv, rfl⟩ := close_ok_eq h
  dsimp only
  split
  · exact .inr rfl
  · exact .inl rfl

theorem close_ok_pool_started (h : r.close L = (.ok (), r')) :
    r'.pooled = true → r'.started = true := by
  obtain ⟨lv, rfl⟩ := close_ok_eq h
  intro hp
  simp only at hp ⊢
  simp [hp]

end Start

section Offers

variable {L : Listeners σ α β} {svc : Service σ} {budget : Nat} {item : α} {s s' : σ}

theorem offer_cases {res : Intake} (h : (r.offer L svc budget item).run s = (.ok (res, r'), s')) :
    (r.endpoint.style.takesInput = false ∧ r' = r ∧ res ≠ .full) ∨
      (r.endpoint.style.takesInput = true ∧ ∃ e, r.start L = (.error e, r') ∧ res = .refused e) ∨
      (r.endpoint.style.takesInput = true ∧ ∃ r₁, r.start L = (.ok (), r₁) ∧ r₁.Follows r' ∧
        (res = .full → r' = r₁)) := by
  rcases offer_starts h with ⟨hin, rfl, -, e, rfl⟩ | ⟨hin, e, hs, -, rfl⟩ | ⟨hin, r₁, hs, h₁⟩
  · exact .inl ⟨hin, rfl, fun h => Intake.noConfusion h⟩
  · exact .inr (.inl ⟨hin, e, hs, rfl⟩)
  refine .inr (.inr ⟨hin, r₁, hs, ?_⟩)
  rcases enqueue_shape h₁ with ⟨rfl, -, -⟩ | ⟨rfl, -, rfl, -, -⟩ | ⟨hres, r₂, h₂, hr⟩
  · exact ⟨.refl _, fun _ => rfl⟩
  · exact ⟨.keep rfl rfl rfl rfl rfl rfl rfl, fun hf => Intake.noConfusion hf⟩
  · have hf : r₁.Follows r₂ := by
      refine (Follows.keep ?_ ?_ ?_ ?_ ?_ ?_ ?_).trans
        (settle_yields Follows.stepwise 0 budget _ s r₂ s' h₂) <;> rfl
    refine ⟨?_, fun hf => absurd hf hres⟩
    rcases hr with rfl | rfl
    · exact hf
    · exact hf.trans (.keep rfl rfl rfl rfl rfl rfl rfl)

theorem Wf.offer (hw : r.Wf) {res : Intake}
    (h : (r.offer L svc budget item).run s = (.ok (res, r'), s')) :
    r.Advances r' ∧ r'.Wf ∧ (res = .full → r'.pooled = true → r'.started = true) := by
  rcases offer_cases h with ⟨-, hr, hres⟩ | ⟨hin, e, hs, rfl⟩ | ⟨hin, r₁, hs, hf, hfull⟩
  · rw [hr]
    exact ⟨.refl r, hw, fun h => absurd h hres⟩
  · exact ⟨hw.start_advances hs, hw.start hin hs, fun h => Intake.noConfusion h⟩
  · have hw₁ := hw.start hin hs
    have hst₁ : r₁.pooled = true → r₁.started = true := by
      obtain ⟨lv, rfl⟩ := start_ok_eq hs
      intro hp
      simp only at hp ⊢
      simp [hp]
    refine ⟨(hw.start_advances hs).trans (hf.advances hw₁.not_completed), hw₁.follows hf hst₁,
      fun hres => ?_⟩
    rw [hfull hres]
    exact hst₁

theorem Wf.accept_go (item : α) :
    ∀ (fuel : Nat) {r r' : Run α β} {s s' : σ} {res : Except Error Unit}, r.Wf →
      (accept.go L svc budget item fuel r).run s = (.ok (res, r'), s') →
        r.Advances r' ∧ r'.Wf := by
  intro fuel r r' s s' res hw h
  refine accept_go_chain (fun x y => x.1.Wf → x.1.Advances y.1 ∧ y.1.Wf) ?_ ?_ ?_ fuel h hw
  · intro x y z hxy hyz hx
    obtain ⟨ha, hy⟩ := hxy hx
    obtain ⟨ha', hz⟩ := hyz hy
    exact ⟨ha.trans ha', hz⟩
  · intro r r' s s' res h _ hw
    exact ⟨(hw.offer h).1, (hw.offer h).2.1⟩
  · intro r r₁ r₂ s s₁ s₂ h₁ h₂ hw
    obtain ⟨ho, hw₁, hfull⟩ := hw.offer h₁
    have hf := round_yields Follows.stepwise r₁ s₁ r₂ s₂ h₂
    exact ⟨ho.trans (hf.advances hw₁.not_completed), hw₁.follows hf (hfull rfl)⟩

theorem Wf.move {es : List (Event α β)} (hw : r.Wf) (h : Move L svc budget (r, s) es (r', s')) :
    r.Advances r' ∧ r'.Wf := by
  cases h with
  | offer item res h => exact ⟨(hw.offer h).1, (hw.offer h).2.1⟩
  | take i ctx hst _ =>
    exact ⟨(Follows.takeBatch r i).advances hw.not_completed,
      hw.follows (Follows.takeBatch r i) fun _ => hst⟩
  | call i ctx batch n res hst _ _ _ h =>
    have hf := afterCall_yields Follows.stepwise res _ _ _ h
    exact ⟨hf.advances hw.not_completed, hw.follows hf fun _ => hst⟩
  | crash i ctx batch n t _ hst _ _ =>
    have hf := (Follows.abort r (panicError t)).trans (Follows.leave _ i .stopped)
    exact ⟨hf.advances hw.not_completed, hw.follows hf fun _ => hst⟩
  | abandon i ctx batch n hst _ _ =>
    exact ⟨(Follows.leave r i _).advances hw.not_completed,
      hw.follows (Follows.leave r i _) fun _ => hst⟩
  | close => exact ⟨hw.close_advances L, hw.close L⟩

theorem Wf.runs {x y : Run α β × σ} {es : List (Event α β)} (hw : x.1.Wf)
    (h : Runs L svc budget x es y) : y.1.Wf := by
  induction h with
  | refl => exact hw
  | tail _ hm ih => exact (ih.move hm).2

end Offers

/-! ### The end of a run -/

theorem Follows.drains (h : r.Follows r') (hd : r.stage = .draining ∨ r.stage = .aborted) :
    r'.stage = .draining ∨ r'.stage = .aborted := by
  rcases h.lifecycle with ⟨hs, -⟩ | ⟨hs, -⟩
  · rw [hs]
    exact hd
  · exact .inr hs

theorem finish_cases (r : Run α β) (hf : r.aborted = true → r.failure.isSome) :
    (r.aborted = false ∧ ∃ rep, r.finish = (.ok rep, { r with stage := .completed })) ∨
      (r.aborted = true ∧ ∃ c, r.failure = some c ∧
        r.finish = (.error (.bulkAborted c), { r with stage := .aborted })) := by
  unfold finish
  cases ha : r.aborted
  · exact .inl ⟨rfl, _, rfl⟩
  · obtain ⟨c, hc⟩ := Option.isSome_iff_exists.1 (hf ha)
    refine .inr ⟨rfl, c, hc, ?_⟩
    simp [abortedError, hc]

theorem finish_advances (hal : r.aborted = true ↔ r.stage = .aborted)
    (hf : r.aborted = true → r.failure.isSome) (hd : r.stage = .draining ∨ r.stage = .aborted)
    {res : Except Error Report} (h : r.finish = (res, r')) :
    r.Advances r' ∧
      ((r'.aborted = false ∧ r'.stage = .completed ∧ ∃ rep, res = .ok rep) ∨
        (r'.aborted = true ∧ r'.stage = .aborted ∧
          ∃ c, r'.failure = some c ∧ res = .error (.bulkAborted c))) := by
  rcases finish_cases r hf with ⟨ha, rep, hfin⟩ | ⟨ha, c, hc, hfin⟩ <;> rw [hfin] at h <;>
    obtain ⟨rfl, rfl⟩ := Prod.mk.inj h
  · have hst : r.stage = .draining := by
      rcases hd with hd | hd
      · exact hd
      · rw [← hal] at hd
        rw [hd] at ha
        cases ha
    refine ⟨⟨?_, fun h => by rw [h] at ha; cases ha⟩, .inl ⟨ha, rfl, rep, rfl⟩⟩
    rw [hst]
    exact .single .complete
  · refine ⟨⟨?_, fun _ => ha⟩, .inr ⟨ha, rfl, c, hc, rfl⟩⟩
    rw [← hal.1 ha]

theorem Wf.await {L : Listeners σ α β} {svc : Service σ} {budget : Nat} {s s' : σ}
    {res : Except Error Report} (hw : r.Wf)
    (h : (r.await L svc budget).run s = (.ok (res, r'), s')) :
    r.Advances r' ∧
      ((r'.aborted = false ∧ r'.stage = .completed ∧ ∃ rep, res = .ok rep) ∨
        (r'.aborted = true ∧ r'.stage = .aborted ∧ ∃ c, r'.failure = some c ∧
          (res = .error (.bulkAborted c) ∨
            (res = .error c ∧ r.pooled = true ∧ r.started = false ∧
              ∃ k text, L.refused r.workers.length = some (k, text) ∧
                c = .invalidState ("failed to spawn bulk worker: " ++ text))))) := by
  rcases await_finishes Follows.stepwise h with ⟨e, hc, rfl⟩ | ⟨r₁, r₂, hc, hf, hres⟩
  · have hs := close_error hc
    have hadv := hw.start_advances hs
    obtain ⟨hp, hst, k, lv, rfl⟩ := start_error hs
    obtain ⟨k', text, hr, rfl⟩ := start_error_text hs
    exact ⟨hadv, .inr ⟨rfl, rfl, _, rfl, .inr ⟨rfl, hp, hst, k', text, hr, rfl⟩⟩⟩
  · have hc₁ : (r.close L).2 = r₁ := by rw [hc]
    have hw₁ : r₁.Wf := hc₁ ▸ hw.close L
    have hw₂ := hw₁.follows hf (close_ok_pool_started hc)
    obtain ⟨ha, hend⟩ := finish_advances hw₂.aborted_iff hw₂.failed
      (hf.drains (close_ok_drains hc)) hres
    refine ⟨((hc₁ ▸ hw.close_advances L).trans (hf.advances hw₁.not_completed)).trans ha, ?_⟩
    rcases hend with hok | ⟨ha', hs', c, hc', hres'⟩
    · exact .inl hok
    · exact .inr ⟨ha', hs', c, hc', .inl hres'⟩

theorem Wf.drop_advances (hw : r.Wf) : r.Advances r.drop := by
  unfold drop
  split
  · exact (Follows.abort r _).advances hw.not_completed
  · exact .refl r

end Run

/-- One step of a run before it is awaited: a move of the machine or a whole `accept`. -/
inductive Life (L : Listeners σ α β) (svc : Service σ) (budget : Nat) :
    Run α β × σ → Run α β × σ → Prop
  | move {x y : Run α β × σ} {es : List (Event α β)} :
      Move L svc budget x es y → Life L svc budget x y
  | accept {r r' : Run α β} {s s' : σ} (item : α) (res : Except Error Unit) :
      (r.accept L svc budget item).run s = (.ok (res, r'), s') → Life L svc budget (r, s) (r', s')

namespace Run

variable {L : Listeners σ α β} {svc : Service σ} {budget : Nat} {r : Run α β}

theorem new_wf {e : Endpoint α β} {p : Placement} (h : Run.new e p = .ok r) : r.Wf := by
  unfold Run.new at h
  cases hc : e.style.check e.decl with
  | error err =>
    rw [hc] at h
    cases h
  | ok u =>
    simp only [hc, bind, Except.bind, pure, Except.pure] at h
    split at h <;> cases h <;>
      exact ⟨by simp, fun h => Bool.noConfusion h, Stage.noConfusion, fun _ => rfl,
        fun _ h => Bool.noConfusion h, fun _ _ _ => rfl⟩

theorem Wf.life {x y : Run α β × σ} (hw : x.1.Wf) (h : Life L svc budget x y) :
    x.1.Advances y.1 ∧ y.1.Wf := by
  cases h with
  | move h => exact hw.move h
  | accept item res h => exact hw.accept_go item budget h

theorem Wf.reach {x y : Run α β × σ} (hw : x.1.Wf)
    (h : Relation.ReflTransGen (Life L svc budget) x y) : x.1.Advances y.1 ∧ y.1.Wf := by
  induction h with
  | refl => exact ⟨.refl _, hw⟩
  | tail _ hs ih =>
    obtain ⟨ha, hw'⟩ := ih
    obtain ⟨ha', hw''⟩ := hw'.life hs
    exact ⟨ha.trans ha', hw''⟩

end Run

end EndpointCall.Bulk
