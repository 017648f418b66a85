import EndpointCall.Proofs.BulkLifecycle
import EndpointCall.Service.Scripted
/-! Aborted bulk runs refuse every input and make no call. -/
namespace EndpointCall.Bulk

variable {α β σ : Type}

/-! ### Quiet computations -/

/-- A computation that makes no call, asks no listener and answers the same everywhere. -/
def Quiet {γ : Type} (P : γ → Prop) (x : Listeners σ α β → Service σ → Act σ γ) : Prop :=
  ∃ out : Except Halt γ, (∀ a, out = .ok a → P a) ∧ ∀ L svc s, (x L svc).run s = (out, s)

namespace Quiet

variable {γ δ : Type} {P : γ → Prop} {Q : δ → Prop}

theorem pure {a : γ} (h : P a) : Quiet (α := α) (β := β) P fun _ _ => (pure a : Act σ γ) :=
  ⟨.ok a, fun _ h' => by cases h'; exact h, fun _ _ _ => rfl⟩

theorem throw (h : Halt) : Quiet (α := α) (β := β) P fun _ _ => (throw h : Act σ γ) :=
  ⟨.error h, (fun _ h' => by cases h'), fun _ _ _ => rfl⟩

theorem bind {x : Listeners σ α β → Service σ → Act σ γ}
    {f : Listeners σ α β → Service σ → γ → Act σ δ} (hx : Quiet P x)
    (hf : ∀ a, P a → Quiet Q fun L svc => f L svc a) :
    Quiet Q fun L svc => x L svc >>= f L svc := by
  obtain ⟨out, hP, hx⟩ := hx
  cases out with
  | error h =>
    exact ⟨.error h, (fun _ h' => by cases h'), fun L svc s => by rw [act_run_bind, hx]⟩
  | ok a =>
    obtain ⟨out', hQ, hf⟩ := hf a (hP a rfl)
    exact ⟨out', hQ, fun L svc s => by rw [act_run_bind, hx]; exact hf L svc s⟩

end Quiet

namespace Run

variable {r : Run α β}

/-! ### The workers of an aborted run -/

theorem workStep_quiet (ha : r.aborted = true) (i : Nat) :
    Quiet (·.aborted = true) fun (L : Listeners σ α β) svc => r.workStep L svc i := by
  cases hw : r.workers[i]? with
  | none =>
    simp only [workStep, hw]
    exact .pure ha
  | some w =>
    obtain ⟨ctx, ph⟩ := w
    cases ph with
    | ready =>
      simp only [workStep, hw]
      exact .pure ((Follows.takeBatch r i).aborted ha)
    | holding b n =>
      simp only [workStep, hw, attempt, ha, ↓reduceIte]
      exact .pure ((Follows.leave r i _).aborted ha)
    | finished =>
      simp only [workStep, hw]
      exact .pure ha
    | stopped =>
      simp only [workStep, hw]
      exact .pure ha

theorem settle_quiet (i : Nat) :
    ∀ (fuel : Nat) (r : Run α β), r.aborted = true →
      Quiet (·.aborted = true) fun (L : Listeners σ α β) svc => r.settle L svc i fuel
  | 0, r, ha => by
    by_cases hh : r.holding i = true
    · simp only [settle, hh, ↓reduceIte]
      exact .throw _
    · simp only [settle, hh]
      exact .pure ha
  | fuel + 1, r, ha => by
    by_cases hh : r.holding i = true
    · simp only [settle, hh, ↓reduceIte]
      exact (workStep_quiet ha i).bind fun r₁ h₁ => settle_quiet i fuel r₁ h₁
    · simp only [settle, hh]
      exact .pure ha

theorem runWorker_quiet (budget i : Nat) :
    ∀ (fuel : Nat) (r : Run α β), r.aborted = true →
      Quiet (·.aborted = true) fun (L : Listeners σ α β) svc => r.runWorker L svc budget i fuel
  | 0, r, ha => by
    by_cases hg : r.gone i = true
    · simp only [runWorker, hg, ↓reduceIte]
      exact .pure ha
    · simp only [runWorker, hg]
      exact .throw _
  | fuel + 1, r, ha => by
    by_cases hg : r.gone i = true
    · simp only [runWorker, hg, ↓reduceIte]
      exact .pure ha
    · simp only [runWorker, hg]
      exact (settle_quiet i budget _ ((Follows.takeBatch r i).aborted ha)).bind
        fun r₁ h₁ => runWorker_quiet budget i fuel r₁ h₁

theorem foldlM_workStep_quiet :
    ∀ (l : List Nat) (r : Run α β), r.aborted = true →
      Quiet (·.aborted = true) fun (L : Listeners σ α β) svc =>
        l.foldlM (fun (r : Run α β) i => r.workStep L svc i) r
  | [], r, ha => .pure ha
  | i :: l, r, ha => by
    simp only [List.foldlM_cons]
    exact (workStep_quiet ha i).bind fun r₁ h₁ => foldlM_workStep_quiet l r₁ h₁

theorem drive_quiet : ∀ (fuel : Nat) (r : Run α β), r.aborted = true →
    Quiet (·.aborted = true) fun (L : Listeners σ α β) svc => r.drive L svc fuel
  | 0, r, ha => by
    by_cases hg : r.allGone = true
    · simp only [drive, hg, ↓reduceIte]
      exact .pure ha
    · simp only [drive, hg]
      exact .throw _
  | fuel + 1, r, ha => by
    by_cases hg : r.allGone = true
    · simp only [drive, hg, ↓reduceIte]
      exact .pure ha
    · simp only [drive, hg]
      exact (foldlM_workStep_quiet _ r ha).bind fun r₁ h₁ => drive_quiet fuel r₁ h₁

theorem Wf.close_of_aborted (hw : r.Wf) (ha : r.aborted = true) (L : Listeners σ α β) :
    r.close L = (.ok (), { r with closed := true }) := by
  have hs : r.stage = .aborted := hw.aborted_iff.1 ha
  unfold Run.close
  rw [start_of_started L fun hp => hw.started hp ha, wake_of_ne_idle (by rw [hs]; decide)]
  simp [hs]

theorem await_quiet (hw : r.Wf) (ha : r.aborted = true) (budget : Nat) :
    Quiet (fun _ => True) fun (L : Listeners σ α β) svc => r.await L svc budget := by
  have hend : ∀ r₂ : Run α β, r₂.aborted = true →
      Quiet (α := α) (β := β) (fun _ => True) fun _ _ => (pure r₂.finish : Act σ _) :=
    fun _ _ => .pure trivial
  have hc : ∀ L : Listeners σ α β, r.close L = (.ok (), { r with closed := true }) :=
    hw.close_of_aborted ha
  simp only [Run.await, hc]
  have hca : ({ r with closed := true } : Run α β).aborted = true := ha
  generalize ({ r with closed := true } : Run α β) = rc at hca ⊢
  unfold Run.drain
  by_cases hp : rc.pooled = true
  · simp only [hp, ↓reduceIte]
    exact (drive_quiet _ _ hca).bind hend
  · simp only [hp]
    by_cases hl : 0 < rc.live
    · simp only [hl, ↓reduceIte]
      exact (runWorker_quiet budget 0 _ _ ((Follows.setPhase _ 0 _).aborted hca)).bind hend
    · simp only [hl]
      exact (Quiet.pure (P := (·.aborted = true)) hca).bind hend

/-! ### Inputs and moves of an aborted run -/

section Moves

variable {L : Listeners σ α β} {svc : Service σ} {budget : Nat}

theorem abortedError_of_failure {c : Error} (h : r.failure = some c) :
    r.abortedError = .bulkAborted c := by
  simp [abortedError, h]

theorem offer_without_input (hin : r.endpoint.style.takesInput = false) (item : α) (s : σ) :
    (r.offer L svc budget item).run s =
      (.ok (.refused (.unsupported ("endpoint takes no input: " ++ r.endpoint.caller.path)), r),
        s) := by
  unfold offer
  simp only [hin, Bool.not_false, ↓reduceIte]
  rfl

theorem Wf.offer_of_aborted (hw : r.Wf) (ha : r.aborted = true) (item : α) (s : σ) :
    (r.offer L svc budget item).run s =
      (.ok (.refused (if r.endpoint.style.takesInput then r.abortedError
        else .unsupported ("endpoint takes no input: " ++ r.endpoint.caller.path)), r), s) := by
  cases hin : r.endpoint.style.takesInput
  · rw [offer_without_input hin]
    rfl
  · have hs : r.start L = (.ok (), r) := by
      rw [start_of_started L fun hp => hw.started hp ha,
        wake_of_ne_idle (by rw [hw.aborted_iff.1 ha]; decide)]
    unfold Run.offer
    simp only [hin, Bool.not_true, Bool.false_eq_true, ↓reduceIte, hs]
    unfold Run.enqueue
    simp [ha]
    rfl

theorem Wf.accept_of_aborted (hw : r.Wf) (ha : r.aborted = true) (item : α) (s : σ) :
    (r.accept L svc budget item).run s =
      (.ok (.error (if r.endpoint.style.takesInput then r.abortedError
        else .unsupported ("endpoint takes no input: " ++ r.endpoint.caller.path)), r), s) := by
  unfold accept accept.go
  rw [act_run_bind, hw.offer_of_aborted ha item s]
  rfl

theorem takeEvents_cases (r : Run α β) (i : Nat) :
    r.takeEvents i = [] ∨ ∃ b, r.takeEvents i = [.took i b] := by
  unfold takeEvents
  split
  · exact .inr ⟨_, rfl⟩
  · exact .inl rfl

theorem Wf.move_of_aborted {x y : Run α β × σ} {es : List (Event α β)} (hw : x.1.Wf)
    (h : Move L svc budget x es y) (ha : x.1.aborted = true) :
    y.1.aborted = true ∧ y.1.endpoint = x.1.endpoint ∧ Log.queuedItems es = [] ∧
      (∀ i b a, Event.called i b a ∉ es) ∧
      (x.1.endpoint.style.takesInput = true → Log.takenBatches es = []) := by
  cases h with
  | @offer r r' s s' item res h =>
    rw [hw.offer_of_aborted ha] at h
    obtain ⟨h₁, h₂⟩ := Prod.mk.inj (Except.ok.inj (Prod.mk.inj h).1)
    subst h₁ h₂
    exact ⟨ha, rfl, rfl, by simp [Intake.events], fun _ => rfl⟩
  | take i ctx hst hwk =>
    refine ⟨(Follows.takeBatch _ i).aborted ha, (Follows.takeBatch _ i).endpoint, ?_, ?_, ?_⟩
    · rcases takeEvents_cases _ i with h | ⟨b, h⟩ <;> rw [h] <;> rfl
    · rcases takeEvents_cases _ i with h | ⟨b, h⟩ <;> rw [h] <;> simp
    · intro hin
      rcases take_cases hwk hin with ⟨ha', -⟩ | ⟨-, h⟩ | ⟨-, h⟩
      · rw [ha] at ha'
        cases ha'
      · rw [h]
        rfl
      · rw [h]
        rfl
  | call i ctx batch n res hst _ ha' =>
    dsimp only at ha
    rw [ha] at ha'
    cases ha'
  | crash i ctx batch n t _ _ _ ha' =>
    dsimp only at ha
    rw [ha] at ha'
    cases ha'
  | abandon i ctx batch n hst _ ha' =>
    exact ⟨(Follows.leave _ i _).aborted ha, (Follows.leave _ i _).endpoint, rfl, by simp,
      fun _ => rfl⟩
  | @close r s =>
    rw [hw.close_of_aborted ha L]
    exact ⟨ha, rfl, rfl, by simp, fun _ => rfl⟩

theorem Wf.runs_of_aborted {x y : Run α β × σ} {es : List (Event α β)} (hw : x.1.Wf)
    (h : Runs L svc budget x es y) (ha : x.1.aborted = true) :
    y.1.aborted = true ∧ y.1.endpoint = x.1.endpoint ∧ Log.queuedItems es = [] ∧
      (∀ i b a, Event.called i b a ∉ es) ∧
      (x.1.endpoint.style.takesInput = true → Log.takenBatches es = []) := by
  induction h with
  | refl => exact ⟨ha, rfl, rfl, by simp, fun _ => rfl⟩
  | tail hr hm ih =>
    obtain ⟨ha₁, he₁, hq₁, hc₁, ht₁⟩ := ih
    obtain ⟨ha₂, he₂, hq₂, hc₂, ht₂⟩ := (hw.runs hr).move_of_aborted hm ha₁
    refine ⟨ha₂, he₂.trans he₁, by simp [hq₁, hq₂], ?_, fun hin => ?_⟩
    · intro i b a hmem
      rcases List.mem_append.1 hmem with h | h
      · exact hc₁ i b a h
      · exact hc₂ i b a h
    · rw [Log.takenBatches_append, ht₁ hin, ht₂ (he₁ ▸ hin)]
      rfl

end Moves

end Run

variable {L : Listeners σ α β} {svc : Service σ} {budget : Nat}

/-- The stages a bulk run goes through, and what an abort fixes from then on. -/
theorem bulk_run_lifecycle {e : Endpoint α β} {p : Placement} {r₀ r : Run α β} {s₀ s : σ}
    (hnew : Run.new e p = .ok r₀)
    (hreach : Relation.ReflTransGen (Life L svc budget) (r₀, s₀) (r, s)) :
    (∀ y, Life L svc budget (r, s) y →
      r.Advances y.1 ∧ (r.stage = .aborted → y.1.stage = .aborted)) ∧
    r.Advances r.drop ∧
    (∀ res r' s', (r.await L svc budget).run s = (.ok (res, r'), s') →
      r.Advances r' ∧
        ((r'.aborted = false ∧ r'.stage = .completed ∧ ∃ rep, res = .ok rep) ∨
          (r'.aborted = true ∧ r'.stage = .aborted ∧ ∃ c, r'.failure = some c ∧
            (res = .error (.bulkAborted c) ∨
              (res = .error c ∧ r.pooled = true ∧ r.started = false ∧
                ∃ k text, L.refused r.workers.length = some (k, text) ∧
                  c = .invalidState ("failed to spawn bulk worker: " ++ text)))))) ∧
    (r.aborted = true →
      (∃ c, r.failure = some c ∧ ∀ item, (r.accept L svc budget item).run s =
        (.ok (.error (if r.endpoint.style.takesInput then .bulkAborted c
          else .unsupported ("endpoint takes no input: " ++ r.endpoint.caller.path)), r), s)) ∧
      (∀ es y, Runs L svc budget (r, s) es y → Log.queuedItems es = [] ∧
        (∀ i b a, Event.called i b a ∉ es) ∧
        (r.endpoint.style.takesInput = true → Log.takenBatches es = [])) ∧
      (∃ out, ∀ (L' : Listeners σ α β) (svc' : Service σ) s',
        (r.await L' svc' budget).run s' = (out, s'))) := by
  have hw : r.Wf := ((Run.new_wf hnew).reach hreach).2
  refine ⟨fun y hy => ?_, hw.drop_advances, fun res r' s' h => hw.await h,
    fun ha => ⟨?_, fun es y h => ?_, ?_⟩⟩
  · have hadv := (hw.life hy).1
    exact ⟨hadv, fun hs => Stage.eq_aborted_of_reaches (hs ▸ hadv.stage)⟩
  · obtain ⟨c, hc⟩ := Option.isSome_iff_exists.1 (hw.failed ha)
    refine ⟨c, hc, fun item => ?_⟩
    rw [hw.accept_of_aborted ha, Run.abortedError_of_failure hc]
  · obtain ⟨-, -, hq, hc, ht⟩ := hw.runs_of_aborted h ha
    exact ⟨hq, hc, ht⟩
  · obtain ⟨out, -, hq⟩ := Run.await_quiet (σ := σ) hw ha budget
    exact ⟨out, hq⟩

theorem bulk_run_aborts_on_failure :
    ∃ (e : Endpoint (List UInt8) (List UInt8)) (r₀ r : Run (List UInt8) (List UInt8))
      (s : List ScriptReply),
      Endpoint.inputOutput (.obj [("$bulk", .obj [("inputBatchSize", .num (.int 2))]),
        ("endpoint", .str "/p.sjs"),
        ("params", .arr [.obj [("datatype", .str "binaryDocument"), ("multiple", .bool true),
          ("name", .str "input"), ("nullable", .bool true)]]),
        ("return", .obj [("datatype", .str "binaryDocument"), ("multiple", .bool true),
          ("nullable", .bool true)])]) Handle.bytes Handle.bytes {} = .ok e ∧
      Run.new e (.pool [{}]) = .ok r₀ ∧
      Relation.ReflTransGen (Life {} Service.scripted 4)
        (r₀, [.failure (.transport "down")]) (r, s) ∧
      r.aborted = true ∧ r.stage = .aborted ∧ r.failure = some (.transport "down") ∧
      ∀ item, (r.accept {} Service.scripted 4 item).run s =
        (.ok (.error (.bulkAborted (.transport "down")), r), s) := by
  obtain ⟨e, r₀, r, s, he, hnew, hreach, ha, hst, hf, hin⟩ :
      ∃ (e : Endpoint (List UInt8) (List UInt8)) (r₀ r : Run (List UInt8) (List UInt8))
        (s : List ScriptReply),
      Endpoint.inputOutput (.obj [("$bulk", .obj [("inputBatchSize", .num (.int 2))]),
        ("endpoint", .str "/p.sjs"),
        ("params", .arr [.obj [("datatype", .str "binaryDocument"), ("multiple", .bool true),
          ("name", .str "input"), ("nullable", .bool true)]]),
        ("return", .obj [("datatype", .str "binaryDocument"), ("multiple", .bool true),
          ("nullable", .bool true)])]) Handle.bytes Handle.bytes {} = .ok e ∧
      Run.new e (.pool [{}]) = .ok r₀ ∧
      Relation.ReflTransGen (Life {} Service.scripted 4)
        (r₀, [.failure (.transport "down")]) (r, s) ∧
      r.aborted = true ∧ r.stage = .aborted ∧ r.failure = some (.transport "down") ∧
      r.endpoint.style.takesInput = true :=
    ⟨_, _, _, _, rfl, rfl,
      .tail (.tail (.tail (.single
        (Life.move (Move.offer [1] .queued rfl)))
        (Life.move (Move.offer [2] .queued rfl)))
        (Life.move (Move.take 0 {} rfl rfl)))
        (Life.move (Move.call 0 {} [[1], [2]] 0 _ rfl rfl rfl rfl rfl)),
      by decide +kernel, by decide +kernel, rfl, by decide +kernel⟩
  obtain ⟨c, hc, hacc⟩ := ((bulk_run_lifecycle hnew hreach).2.2.2 ha).1
  rw [hf, Option.some.injEq] at hc
  subst hc
  refine ⟨e, r₀, r, s, he, hnew, hreach, ha, hst, hf, fun item => ?_⟩
  rw [hacc item, if_pos hin]

end EndpointCall.Bulk
