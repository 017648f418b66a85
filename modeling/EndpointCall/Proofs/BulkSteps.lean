import EndpointCall.Bulk.Machine
/-! What each operation of a bulk run changes. -/
namespace EndpointCall.Bulk

variable {α β σ γ : Type}

/-- The error listener that has every failed call retried. -/
def Listeners.retrying : Listeners σ α β where
  onError := some fun _ _ _ _ => pure (.dispose .retry)

def Phase.isHolding : Phase α → Bool
  | .holding _ _ => true
  | _ => false

@[simp] theorem Phase.isHolding_holding (b : List α) (n : UInt32) : (Phase.holding b n).isHolding :=
  rfl

theorem List.countP_set_add {l : List γ} {i : Nat} {w : γ} (h : l[i]? = some w) (a : γ)
    (p : γ → Bool) :
    (l.set i a).countP p + (if p w then 1 else 0) = l.countP p + (if p a then 1 else 0) := by
  obtain ⟨hi, hw⟩ := List.getElem?_eq_some_iff.1 h
  have hle : (if p w then 1 else 0) ≤ l.countP p := hw ▸ List.boole_getElem_le_countP hi
  rw [List.countP_set hi, hw]
  omega

theorem act_run_pure {a b : γ} {s s' : σ} :
    (pure a : Act σ γ).run s = (.ok b, s') ↔ a = b ∧ s = s' := by
  simp only [ExceptT.run_pure]
  exact ⟨fun h => by cases h; exact ⟨rfl, rfl⟩, fun ⟨ha, hs⟩ => by rw [ha, hs]; rfl⟩

theorem act_run_pure_pair {δ : Type} {a a' : γ} {b b' : δ} {s s' : σ} :
    (pure (a, b) : Act σ (γ × δ)).run s = (.ok (a', b'), s') ↔ a = a' ∧ b = b' ∧ s = s' := by
  rw [act_run_pure, Prod.mk.injEq, and_assoc]

theorem act_run_bind {δ : Type} (x : Act σ γ) (f : γ → Act σ δ) (s : σ) :
    (x >>= f).run s = match x.run s with
      | (.ok a, s') => (f a).run s'
      | (.error h, s') => (.error h, s') := by
  simp only [bind, ExceptT.bind, ExceptT.mk, ExceptT.run, StateT.bind, ExceptT.bindCont]
  rcases x s with ⟨_ | a, s'⟩ <;> rfl

theorem act_run_lift (x : StateM σ γ) (s : σ) :
    (liftM x : Act σ γ).run s = (.ok (x.run s).1, (x.run s).2) := rfl

theorem act_run_halting {x : Except Halt (Run α β)} {r : Run α β} {s s' : σ} :
    (Run.halting x : Act σ (Run α β)).run s = (.ok r, s') ↔ x = .ok r ∧ s' = s := by
  unfold Run.halting
  cases x with
  | ok r₁ => rw [act_run_pure, Except.ok.injEq, eq_comm (a := s)]
  | error h =>
    constructor
    · intro h'
      cases h'
    · rintro ⟨h', -⟩
      cases h'

namespace Run

def phases (r : Run α β) : List (Phase α) := r.workers.map (·.phase)

def holdingCount (r : Run α β) : Nat := r.phases.countP Phase.isHolding

theorem new_pool {e : Endpoint α β} {ctxs : List CallContext} {r : Run α β}
    (h : Run.new e (.pool ctxs) = .ok r) :
    ctxs ≠ [] ∧ r.endpoint = e ∧ r.pooled = true ∧ r.queue = [] ∧ r.failure = none ∧
      r.calls = 0 ∧ r.skipped = 0 ∧ r.workers = ctxs.map fun c => { context := c } := by
  unfold new at h
  cases hc : e.style.check e.decl with
  | error err => simp [hc] at h; cases h
  | ok u =>
    cases ctxs with
    | nil => simp [hc] at h; cases h
    | cons c cs =>
      simp only [hc, bind, Except.bind, pure, Except.pure, Except.ok.injEq] at h
      subst h
      simp

theorem wake_eq (r : Run α β) : ∃ st, r.wake = { r with stage := st } := by
  unfold wake
  split
  · exact ⟨_, rfl⟩
  · exact ⟨r.stage, rfl⟩

theorem wake_stage (r : Run α β) :
    r.wake.stage = if r.stage = .idle then .accepting else r.stage := by
  unfold wake
  split <;> simp_all

theorem wake_of_ne_idle {r : Run α β} (h : r.stage ≠ .idle) : r.wake = r := by
  simp [wake, h]

theorem start_ok {L : Listeners σ α β} {r r' : Run α β} (h : r.start L = (.ok (), r')) :
    ∃ lv, r' = { r.wake with started := r.pooled || r.started, live := lv } := by
  obtain ⟨st, hw⟩ := wake_eq r
  unfold start at h
  rw [hw] at h ⊢
  dsimp only at h
  split at h
  · rename_i hp
    simp only [Bool.and_eq_true, Bool.not_eq_true'] at hp
    split at h
    · obtain ⟨-, rfl⟩ := Prod.mk.inj h
      exact ⟨r.live + r.workers.length, by simp [hp]⟩
    · cases h
  · obtain ⟨-, rfl⟩ := Prod.mk.inj h
    rename_i hp
    refine ⟨r.live, ?_⟩
    cases hpo : r.pooled <;> cases hs : r.started <;> simp_all

theorem start_ok_eq {L : Listeners σ α β} {r r' : Run α β} (h : r.start L = (.ok (), r')) :
    ∃ lv, r' = { r with
      stage := if r.stage = .idle then .accepting else r.stage
      started := r.pooled || r.started
      live := lv } := by
  obtain ⟨lv, rfl⟩ := start_ok h
  refine ⟨lv, ?_⟩
  unfold wake
  split <;> simp_all

theorem start_of_started (L : Listeners σ α β) {r : Run α β}
    (h : r.pooled = true → r.started = true) : r.start L = (.ok (), r.wake) := by
  obtain ⟨st, hw⟩ := wake_eq r
  unfold start
  rw [hw]
  cases hp : r.pooled
  · simp
  · simp [h hp]

theorem start_error {L : Listeners σ α β} {r r' : Run α β} {e : Error}
    (h : r.start L = (.error e, r')) :
    r.pooled = true ∧ r.started = false ∧
      ∃ k lv, r' = ({ r.wake with started := true, live := lv }.stopFrom k).abort e := by
  obtain ⟨st, hw⟩ := wake_eq r
  unfold start at h
  rw [hw] at h ⊢
  dsimp only at h
  split at h
  · rename_i hp
    simp only [Bool.and_eq_true, Bool.not_eq_true'] at hp
    split at h
    · cases h
    · obtain ⟨he, rfl⟩ := Prod.mk.inj h
      cases he
      exact ⟨hp.1, hp.2, _, _, rfl⟩
  · cases h

theorem start_error_text {L : Listeners σ α β} {r r' : Run α β} {e : Error}
    (h : r.start L = (.error e, r')) : ∃ k text, L.refused r.workers.length = some (k, text) ∧
      e = .invalidState ("failed to spawn bulk worker: " ++ text) := by
  obtain ⟨st, hw⟩ := wake_eq r
  unfold start at h
  rw [hw] at h
  dsimp only at h
  split at h
  · split at h
    · cases h
    · rename_i k text hr
      obtain ⟨he, -⟩ := Prod.mk.inj h
      cases he
      exact ⟨k, text, hr, rfl⟩
  · cases h

theorem start_ok_fields {L : Listeners σ α β} {r r' : Run α β} (h : r.start L = (.ok (), r')) :
    ∃ st sd lv, r' = { r with stage := st, started := sd, live := lv } := by
  obtain ⟨lv, rfl⟩ := start_ok h
  obtain ⟨st, hw⟩ := wake_eq r
  rw [hw]
  exact ⟨st, _, lv, rfl⟩

theorem start_error_fields {L : Listeners σ α β} {r r' : Run α β} {e : Error}
    (h : r.start L = (.error e, r')) :
    ∃ st lv k, r' = ({ r with stage := st, started := true, live := lv }.stopFrom k).abort e := by
  obtain ⟨-, -, k, lv, rfl⟩ := start_error h
  obtain ⟨st, hw⟩ := wake_eq r
  rw [hw]
  exact ⟨st, lv, k, rfl⟩

theorem close_ok {L : Listeners σ α β} {r r' : Run α β} (h : r.close L = (.ok (), r')) :
    ∃ r₁, r.start L = (.ok (), r₁) ∧
      r' = { (if r₁.stage = .aborted then r₁ else { r₁ with stage := .draining }) with
        closed := true } := by
  unfold close at h
  split at h
  · cases h
  · rename_i r₁ hs
    exact ⟨r₁, hs, (Prod.mk.inj h).2.symm⟩

theorem close_ok_eq {L : Listeners σ α β} {r r' : Run α β} (h : r.close L = (.ok (), r')) :
    ∃ lv, r' = { r with
      stage := if r.stage = .aborted then .aborted else .draining
      started := r.pooled || r.started
      live := lv
      closed := true } := by
  obtain ⟨r₁, hs, rfl⟩ := close_ok h
  obtain ⟨lv, rfl⟩ := start_ok_eq hs
  refine ⟨lv, ?_⟩
  by_cases hi : r.stage = .idle <;> by_cases ha : r.stage = .aborted <;> simp_all

theorem close_error {L : Listeners σ α β} {r r' : Run α β} {e : Error}
    (h : r.close L = (.error e, r')) : r.start L = (.error e, r') := by
  unfold close at h
  split at h
  · rename_i e' r₁ hs
    obtain ⟨he, rfl⟩ := Prod.mk.inj h
    cases he
    exact hs
  · cases h

theorem start_cases {L : Listeners σ α β} {r r' : Run α β} {x : Except Error Unit}
    (h : r.start L = (x, r')) :
    (∃ st sd lv, r' = { r with stage := st, started := sd, live := lv }) ∨
      ∃ e st lv k,
        r' = ({ r with stage := st, started := true, live := lv }.stopFrom k).abort e := by
  rcases x with e | ⟨⟩
  · obtain ⟨st, lv, k, rfl⟩ := start_error_fields h
    exact .inr ⟨e, st, lv, k, rfl⟩
  · exact .inl (start_ok_fields h)

theorem close_cases (L : Listeners σ α β) (r : Run α β) :
    (∃ st sd lv,
        (r.close L).2 = { r with stage := st, started := sd, live := lv, closed := true }) ∨
      ∃ e st lv k,
        (r.close L).2 =
          ({ r with stage := st, started := true, live := lv }.stopFrom k).abort e := by
  generalize hc : r.close L = c
  obtain ⟨x, r'⟩ := c
  rcases x with e | ⟨⟩
  · obtain ⟨st, lv, k, rfl⟩ := start_error_fields (close_error hc)
    exact .inr ⟨e, st, lv, k, rfl⟩
  · obtain ⟨r₁, hs, rfl⟩ := close_ok hc
    obtain ⟨st, sd, lv, rfl⟩ := start_ok_fields hs
    refine .inl ?_
    split
    · exact ⟨st, sd, lv, rfl⟩
    · exact ⟨.draining, sd, lv, rfl⟩

theorem await_cases {L : Listeners σ α β} {svc : Service σ} {budget : Nat} {r r' : Run α β}
    {s s' : σ} {res : Except Error Report}
    (h : (r.await L svc budget).run s = (.ok (res, r'), s')) :
    (∃ e, r.close L = (.error e, r') ∧ res = .error e ∧ s' = s) ∨
      ∃ r₁, r.close L = (.ok (), r₁) ∧ (r₁.drain L svc budget).run s = (.ok (res, r'), s') := by
  unfold await at h
  split at h
  · rename_i e r₁ hc
    obtain ⟨rfl, rfl, rfl⟩ := act_run_pure_pair.1 h
    exact .inl ⟨e, hc, rfl, rfl⟩
  · rename_i r₁ hc
    exact .inr ⟨r₁, hc, h⟩

@[simp] theorem phases_stopFrom (r : Run α β) (k : Nat) :
    (r.stopFrom k).phases = r.phases.mapIdx fun j p => if k ≤ j then .stopped else p := by
  apply List.ext_getElem?
  intro j
  simp only [phases, stopFrom, List.getElem?_map, List.getElem?_mapIdx]
  cases r.workers[j]? <;> simp only [Option.map_none, Option.map_some]
  split <;> rfl

theorem stopFrom_phase {r : Run α β} {k j : Nat} {p : Phase α}
    (h : (r.stopFrom k).phases[j]? = some p) : r.phases[j]? = some p ∨ (k ≤ j ∧ p = .stopped) := by
  rw [phases_stopFrom, List.getElem?_mapIdx] at h
  cases hj : r.phases[j]? with
  | none => simp [hj] at h
  | some q =>
    simp only [hj, Option.map_some, Option.some.injEq] at h
    split at h
    · exact .inr ⟨‹_›, h.symm⟩
    · exact .inl (congrArg some h)

theorem leave_eq (r : Run α β) (i : Nat) (p : Phase α) :
    ∃ lv, r.leave i p = { r.setPhase i p with live := lv } := by
  unfold leave; dsimp only; split <;> exact ⟨_, rfl⟩

@[simp] theorem phases_setPhase (r : Run α β) (i : Nat) (p : Phase α) :
    (r.setPhase i p).phases = r.phases.set i p := by
  apply List.ext_getElem?
  intro j
  simp only [phases, setPhase, List.getElem?_map, List.getElem?_modify, List.getElem?_set,
    List.length_map]
  split
  · subst_vars
    cases h : r.workers[j]? with
    | none => simp [List.getElem?_eq_none_iff.1 h]
    | some w => simp [(List.getElem?_eq_some_iff.1 h).1]
  · simp

@[simp] theorem phases_setContext (r : Run α β) (i : Nat) (ctx : CallContext) :
    (r.setContext i ctx).phases = r.phases := by
  apply List.ext_getElem?
  intro j
  simp only [phases, setContext, List.getElem?_map, List.getElem?_modify]
  split <;> cases r.workers[j]? <;> simp

@[simp] theorem phases_leave (r : Run α β) (i : Nat) (p : Phase α) :
    (r.leave i p).phases = r.phases.set i p := by
  obtain ⟨lv, h⟩ := leave_eq r i p
  rw [h]; exact phases_setPhase r i p

@[simp] theorem phases_abort (r : Run α β) (e : Error) : (r.abort e).phases = r.phases := rfl

theorem holdingCount_set {r : Run α β} {i : Nat} {q : Phase α} (h : r.phases[i]? = some q)
    (p : Phase α) :
    (r.phases.set i p).countP Phase.isHolding + (if q.isHolding then 1 else 0) =
      r.holdingCount + (if p.isHolding then 1 else 0) :=
  List.countP_set_add h p _

theorem take_cases {r : Run α β} {i : Nat} {ctx : CallContext}
    (hw : r.workers[i]? = some ⟨ctx, .ready⟩) (hin : r.endpoint.style.takesInput = true) :
    (r.aborted = false ∧ r.takeBatch i = ({ r with queue := r.queue.drop r.batchSize }).setPhase i
        (.holding (r.queue.take r.batchSize) 0) ∧
      r.takeEvents i = [.took i (r.queue.take r.batchSize)]) ∨
    (r.takeBatch i = r.leave i .finished ∧ r.takeEvents i = []) ∨
    (r.takeBatch i = r ∧ r.takeEvents i = []) := by
  have hleave : (r.leave i .finished).workers[i]? = some ⟨ctx, .finished⟩ := by
    obtain ⟨lv, hl⟩ := leave_eq r i .finished
    simp [hl, setPhase, hw]
  unfold takeEvents takeBatch
  simp only [hin, Bool.not_true, Bool.false_eq_true, ↓reduceIte]
  split
  · exact .inr (.inl ⟨rfl, by rw [hleave]⟩)
  · split
    · refine .inl ⟨by simpa using ‹¬r.aborted = true›, rfl, ?_⟩
      simp [setPhase, hw]
    · split
      · exact .inr (.inl ⟨rfl, by rw [hleave]⟩)
      · exact .inr (.inr ⟨rfl, by rw [hw]⟩)

theorem offer_starts {L : Listeners σ α β} {svc : Service σ} {budget : Nat} {r r' : Run α β}
    {s s' : σ} {item : α} {res : Intake}
    (h : (r.offer L svc budget item).run s = (.ok (res, r'), s')) :
    (r.endpoint.style.takesInput = false ∧ r' = r ∧ s' = s ∧ ∃ e, res = .refused e) ∨
    (r.endpoint.style.takesInput = true ∧ ∃ e, r.start L = (.error e, r') ∧ s' = s ∧
      res = .refused e) ∨
    (r.endpoint.style.takesInput = true ∧ ∃ r₁, r.start L = (.ok (), r₁) ∧
      (r₁.enqueue L svc budget item).run s = (.ok (res, r'), s')) := by
  unfold offer at h
  by_cases hin : r.endpoint.style.takesInput = true
  case neg =>
    simp only [Bool.not_eq_true] at hin
    simp only [hin, Bool.not_false, ↓reduceIte] at h
    obtain ⟨rfl, rfl, rfl⟩ := act_run_pure_pair.1 h
    exact .inl ⟨hin, rfl, rfl, _, rfl⟩
  simp only [hin, Bool.not_true, Bool.false_eq_true, ↓reduceIte] at h
  split at h
  · rename_i e r₁ hs
    obtain ⟨rfl, rfl, rfl⟩ := act_run_pure_pair.1 h
    exact .inr (.inl ⟨hin, e, hs, rfl, rfl⟩)
  · rename_i r₁ hs
    exact .inr (.inr ⟨hin, r₁, hs, h⟩)

theorem enqueue_pooled {L : Listeners σ α β} {svc : Service σ} {budget : Nat} {r r' : Run α β}
    {s s' : σ} {item : α} {res : Intake} (hp : r.pooled = true)
    (h : (r.enqueue L svc budget item).run s = (.ok (res, r'), s')) :
    s' = s ∧ ((res = .queued ∧ r' = { r with queue := r.queue ++ [item] }) ∨
      (res.events item = ([] : List (Event α β)) ∧ r' = r)) := by
  unfold enqueue at h
  dsimp only at h
  simp only [hp, Bool.or_true, ↓reduceIte] at h
  repeat' split at h
  all_goals
    obtain ⟨rfl, rfl, rfl⟩ := act_run_pure_pair.1 h
    simp [Intake.events, hp]

theorem offer_pooled {L : Listeners σ α β} {svc : Service σ} {budget : Nat} {r r' : Run α β}
    {s s' : σ} {item : α} {res : Intake} (hp : r.pooled = true)
    (h : (r.offer L svc budget item).run s = (.ok (res, r'), s')) :
    s' = s ∧ ((res = .queued ∧ ∃ r₁, r.start L = (.ok (), r₁) ∧
        r' = { r₁ with queue := r₁.queue ++ [item] }) ∨
      (res.events item = ([] : List (Event α β)) ∧ (r' = r ∨ ∃ x, r.start L = (x, r')))) := by
  rcases offer_starts h with ⟨-, rfl, rfl, e, rfl⟩ | ⟨-, e, hs, rfl, rfl⟩ | ⟨-, r₁, hs, h₁⟩
  · exact ⟨rfl, .inr ⟨rfl, .inl rfl⟩⟩
  · exact ⟨rfl, .inr ⟨rfl, .inr ⟨_, hs⟩⟩⟩
  · have hp₁ : r₁.pooled = true := by
      obtain ⟨st, sd, lv, rfl⟩ := start_ok_fields hs
      exact hp
    rcases enqueue_pooled hp₁ h₁ with ⟨rfl, ⟨rfl, rfl⟩ | ⟨hev, rfl⟩⟩
    · exact ⟨rfl, .inl ⟨rfl, r₁, hs, rfl⟩⟩
    · exact ⟨rfl, .inr ⟨hev, .inr ⟨_, hs⟩⟩⟩

/-- The four things an input to a started run can leave. -/
theorem enqueue_shape {L : Listeners σ α β} {svc : Service σ} {budget : Nat} {r r' : Run α β}
    {s s' : σ} {item : α} {res : Intake}
    (h : (r.enqueue L svc budget item).run s = (.ok (res, r'), s')) :
    (r' = r ∧ s' = s ∧ (res = .full → r.capacity ≤ r.queue.length)) ∨
    (r' = { r with queue := r.queue ++ [item] } ∧ s' = s ∧ res = .queued ∧
        r.queue.length < r.capacity ∧ (r.pooled = false → r.queue.length + 1 < r.batchSize)) ∨
    (res ≠ .full ∧ ∃ r₂, ((({ r with queue := [] }).setPhase 0
        (.holding (r.queue ++ [item]) 0)).settle L svc 0 budget).run s = (.ok r₂, s') ∧
        (r' = r₂ ∨ r' = { r₂ with live := 0 })) := by
  unfold enqueue at h
  dsimp only at h
  split at h
  · obtain ⟨rfl, rfl, rfl⟩ := act_run_pure_pair.1 h
    exact .inl ⟨rfl, rfl, fun h => Intake.noConfusion h⟩
  split at h
  · obtain ⟨rfl, rfl, rfl⟩ := act_run_pure_pair.1 h
    exact .inl ⟨rfl, rfl, fun h => Intake.noConfusion h⟩
  split at h
  · obtain ⟨rfl, rfl, rfl⟩ := act_run_pure_pair.1 h
    exact .inl ⟨rfl, rfl, fun h => Intake.noConfusion h⟩
  split at h
  · rename_i hfull
    obtain ⟨rfl, rfl, rfl⟩ := act_run_pure_pair.1 h
    exact .inl ⟨rfl, rfl, fun _ => hfull⟩
  rename_i hcap
  split at h
  · rename_i hless
    obtain ⟨rfl, rfl, rfl⟩ := act_run_pure_pair.1 h
    refine .inr (.inl ⟨rfl, rfl, rfl, Nat.lt_of_not_le hcap, fun hp => ?_⟩)
    have hless' : (decide ((r.queue ++ [item]).length < r.batchSize) ||
        r.pooled) = true := hless
    rw [hp, Bool.or_false, decide_eq_true_eq, List.length_append, List.length_singleton] at hless'
    exact hless'
  rename_i hmore
  rw [act_run_bind] at h
  split at h
  · rename_i r₂ s₂ h₂
    refine .inr (.inr ?_)
    repeat' split at h
    all_goals
      obtain ⟨rfl, rfl, rfl⟩ := act_run_pure_pair.1 h
    · exact ⟨fun h => Intake.noConfusion h, r₂, h₂, .inl rfl⟩
    · exact ⟨fun h => Intake.noConfusion h, r₂, h₂, .inr rfl⟩
    · exact ⟨fun h => Intake.noConfusion h, r₂, h₂, .inl rfl⟩
  · cases h

theorem accept_go_chain {L : Listeners σ α β} {svc : Service σ} {budget : Nat} {item : α}
    (T : Run α β × σ → Run α β × σ → Prop) (htrans : ∀ {x y z}, T x y → T y z → T x z)
    (hoffer : ∀ {r r' s s' res}, (r.offer L svc budget item).run s = (.ok (res, r'), s') →
      res ≠ .full → T (r, s) (r', s'))
    (hwait : ∀ {r r₁ r₂ s s₁ s₂}, (r.offer L svc budget item).run s = (.ok (.full, r₁), s₁) →
      (r₁.round L svc).run s₁ = (.ok r₂, s₂) → T (r, s) (r₂, s₂)) :
    ∀ (fuel : Nat) {r r' : Run α β} {s s' : σ} {res : Except Error Unit},
      (accept.go L svc budget item fuel r).run s = (.ok (res, r'), s') → T (r, s) (r', s') := by
  intro fuel r r' s s' res h
  unfold accept.go at h
  rw [act_run_bind] at h
  split at h
  · rename_i _ s₁ h₁
    split at h
    · obtain ⟨-, rfl, rfl⟩ := act_run_pure_pair.1 h
      exact hoffer h₁ fun h => Intake.noConfusion h
    · obtain ⟨-, rfl, rfl⟩ := act_run_pure_pair.1 h
      exact hoffer h₁ fun h => Intake.noConfusion h
    · rename_i _ r₁
      cases fuel with
      | zero => cases h
      | succ fuel =>
        dsimp only at h
        rw [act_run_bind] at h
        split at h
        · rename_i r₂ s₂ h₂
          exact htrans (hwait h₁ h₂) (accept_go_chain T htrans hoffer hwait fuel h)
        · cases h
  · cases h

theorem afterFailure_ok {L : Listeners σ α β} {r r' : Run α β} {i : Nat} {ctx : CallContext}
    {batch : List α} {n : UInt32} {e : Error} {s s' : σ}
    (h : (r.afterFailure L i ctx batch n e).run s = (.ok r', s')) :
    r.afterVerdict i batch n e ((L.verdict n e ctx batch).run s).1 = .ok r' ∧
      ((L.verdict n e ctx batch).run s).2 = s' := by
  unfold afterFailure at h
  rw [act_run_bind, act_run_lift] at h
  obtain ⟨hv, hs⟩ := act_run_halting.1 h
  exact ⟨hv, hs.symm⟩

theorem afterPanic_ok {r r' : Run α β} {i : Nat} {t : Option String}
    (h : r.afterPanic i t = .ok r') :
    r.pooled = true ∧ r' = (r.abort (panicError t)).leave i .stopped := by
  unfold afterPanic at h
  split at h
  · rename_i hp
    cases h
    exact ⟨hp, rfl⟩
  · cases h

theorem afterCall_success {L : Listeners σ α β} {r r' : Run α β} {i : Nat} {batch : List α}
    {n : UInt32} {outs : List β} {more : Bool} {ctx : CallContext} {s s' : σ}
    (h : (r.afterCall L i batch n (.ok (outs, more), ctx)).run s = (.ok r', s')) :
    ∃ x, (dispatch L outs).run s = (x, s') ∧
      ((x = .returned ∧
        r' = (if more then ({ r with calls := r.calls + 1 }.setContext i ctx).setPhase i .ready
          else ({ r with calls := r.calls + 1 }.setContext i ctx).leave i .finished)) ∨
       (∃ t, x = .panicked t ∧ r.pooled = true ∧
        r' = (({ r with calls := r.calls + 1 }.setContext i ctx).abort (panicError t)).leave i
          .stopped)) := by
  unfold afterCall at h
  rw [act_run_bind, act_run_lift] at h
  generalize hd : (dispatch L outs).run s = d at h
  obtain ⟨x, s₁⟩ := d
  refine ⟨x, ?_⟩
  cases x with
  | returned =>
    obtain ⟨rfl, rfl⟩ := act_run_pure.1 h
    exact ⟨rfl, .inl ⟨rfl, rfl⟩⟩
  | panicked t =>
    obtain ⟨hp, rfl⟩ := act_run_halting.1 h
    obtain ⟨hpool, rfl⟩ := afterPanic_ok hp
    exact ⟨rfl, .inr ⟨t, rfl, hpool, rfl⟩⟩

theorem afterCall_failure {L : Listeners σ α β} {r r' : Run α β} {i : Nat} {batch : List α}
    {n : UInt32} {e : Error} {ctx : CallContext} {s s' : σ}
    (h : (r.afterCall L i batch n (.error e, ctx)).run s = (.ok r', s')) :
    (r.setContext i ctx).afterVerdict i batch n e ((L.verdict n e ctx batch).run s).1 = .ok r' ∧
      ((L.verdict n e ctx batch).run s).2 = s' :=
  afterFailure_ok h

/-- What worker `i`'s call with the batch it holds leaves of a run. -/
structure Settled (r r' : Run α β) (i : Nat) (batch : List α) (a : Answer β) (p : Phase α) :
    Prop where
  queue : r'.queue = r.queue
  pooled : r'.pooled = r.pooled
  endpoint : r'.endpoint = r.endpoint
  started : r'.started = r.started
  phases : r'.phases = r.phases.set i p
  holds : ∀ b n, p = .holding b n → a.ends = false ∧ b = batch
  aborted : r'.aborted = false → r.aborted = false
  sums : r'.aborted = false →
    r'.calls + r'.skipped + (if a.stopsWorker then 1 else 0) + (if p.isHolding then 1 else 0) =
      r.calls + r.skipped + 1

theorem afterCall_settled {L : Listeners σ α β} {r r' : Run α β} {i : Nat} {batch : List α}
    {n : UInt32} {res : Except Error (List β × Bool) × CallContext} {s s' : σ}
    (hp : r.pooled = true) (hin : r.endpoint.style.takesInput = true)
    (h : (r.afterCall L i batch n res).run s = (.ok r', s')) :
    ∃ p, Settled r r' i batch (answerOf L batch n s res) p := by
  obtain ⟨out, ctx⟩ := res
  rcases out with e | ⟨outs, more⟩
  case' ok =>
    obtain ⟨x, -, hr⟩ := afterCall_success h
    rcases hr with ⟨-, hr⟩ | ⟨t, -, -, hr⟩
    case' inl => cases more <;> simp only [Bool.false_eq_true, ↓reduceIte] at hr <;> subst hr
    case' inr => subst hr
  case' error =>
    obtain ⟨hv, -⟩ := afterCall_failure h
    show ∃ p, Settled r r' i batch (.failure e _) p
    generalize ((L.verdict n e ctx batch).run s).1 = v at hv ⊢
    have hin' : (r.setContext i ctx).endpoint.style.takesInput = true := hin
    have hpool : (r.setContext i ctx).pooled = true := hp
    rcases v with _ | ⟨⟨_ | _ | _ | _⟩ | t⟩
    all_goals simp only [afterVerdict, Except.ok.injEq, hin', hpool, ↓reduceIte] at hv
    case' some.fail => obtain ⟨-, hv⟩ := afterPanic_ok hv
    all_goals subst hv
  all_goals refine ⟨_, ?_, ?_, ?_, ?_,
    by simp only [phases_setPhase, phases_leave]
       exact congrArg (fun l : List (Phase α) => l.set i _) (phases_setContext r i ctx),
    fun b n h => by cases h <;> simp [Answer.ends], ?_, ?_⟩
  all_goals first
    | (simp [leave, setPhase, setContext, abort, hp]; done)
    | (intro ha; simp [leave, setPhase, setContext, hp, answerOf,
        Answer.stopsWorker, Phase.isHolding] at ha ⊢ <;> omega)

end Run
end EndpointCall.Bulk
