import EndpointCall.Proofs.BulkLifecycle
import EndpointCall.Service.Scripted
/-! The queue of a bulk run. -/
namespace EndpointCall.Bulk

variable {α β σ : Type}

namespace Run

variable {r r' : Run α β}

/-! ### What the workers do to the queue -/

structure SameShape (r r' : Run α β) : Prop where
  batchSize : r'.batchSize = r.batchSize
  capacity : r'.capacity = r.capacity
  pooled : r'.pooled = r.pooled
  endpoint : r'.endpoint = r.endpoint

theorem SameShape.refl (r : Run α β) : r.SameShape r := ⟨rfl, rfl, rfl, rfl⟩

theorem SameShape.trans {r'' : Run α β} (h : r.SameShape r') (h' : r'.SameShape r'') :
    r.SameShape r'' :=
  ⟨h'.batchSize.trans h.batchSize, h'.capacity.trans h.capacity, h'.pooled.trans h.pooled,
    h'.endpoint.trans h.endpoint⟩

structure Takes (r r' : Run α β) : Prop where
  queue : r'.queue.length ≤ r.queue.length
  shape : r.SameShape r'

namespace Takes

theorem keep (hq : r'.queue = r.queue) (hs : r.SameShape r') : r.Takes r' :=
  ⟨hq ▸ Nat.le_refl _, hs⟩

theorem refl (r : Run α β) : r.Takes r := keep rfl (.refl r)

theorem trans {r'' : Run α β} (h : r.Takes r') (h' : r'.Takes r'') : r.Takes r'' :=
  ⟨Nat.le_trans h'.queue h.queue, h.shape.trans h'.shape⟩

theorem leave (r : Run α β) (i : Nat) (p : Phase α) : r.Takes (r.leave i p) := by
  obtain ⟨lv, h⟩ := leave_eq r i p
  rw [h]
  exact keep rfl ⟨rfl, rfl, rfl, rfl⟩

theorem takeBatch (r : Run α β) (i : Nat) : r.Takes (r.takeBatch i) := by
  unfold Run.takeBatch
  repeat' split
  all_goals first
    | exact keep rfl ⟨rfl, rfl, rfl, rfl⟩
    | exact leave _ _ _
    | exact ⟨by simp only [Run.setPhase, List.length_drop]; omega, ⟨rfl, rfl, rfl, rfl⟩⟩

theorem stepwise : Stepwise (Takes (α := α) (β := β)) where
  refl := refl
  trans := trans
  setPhase _ _ _ := keep rfl ⟨rfl, rfl, rfl, rfl⟩
  setContext _ _ _ := keep rfl ⟨rfl, rfl, rfl, rfl⟩
  leave := leave
  abort _ _ := keep rfl ⟨rfl, rfl, rfl, rfl⟩
  takeBatch := takeBatch
  sums _ _ _ _ := keep rfl ⟨rfl, rfl, rfl, rfl⟩

end Takes

theorem start_takes {L : Listeners σ α β} {x : Except Error Unit} (h : r.start L = (x, r')) :
    r.Takes r' := by
  rcases start_cases h with ⟨st, sd, lv, rfl⟩ | ⟨e, st, lv, k, rfl⟩ <;>
    exact .keep rfl ⟨rfl, rfl, rfl, rfl⟩

theorem close_takes (L : Listeners σ α β) (r : Run α β) : r.Takes (r.close L).2 := by
  rcases close_cases L r with ⟨st, sd, lv, h⟩ | ⟨e, st, lv, k, h⟩ <;> rw [h] <;>
    exact .keep rfl ⟨rfl, rfl, rfl, rfl⟩

theorem finish_takes (r : Run α β) : r.Takes r.finish.2 := by
  unfold finish
  split <;> exact .keep rfl ⟨rfl, rfl, rfl, rfl⟩

/-- The queue holds at most the capacity, and an inline run less than a batch. -/
structure Bounded (r : Run α β) : Prop where
  capacity : r.queue.length ≤ r.capacity
  inline : r.pooled = false → r.queue.length < r.batchSize

theorem Bounded.of_empty (hq : r.queue = []) : r.Bounded where
  capacity := by simp [hq]
  inline _ := by simp [hq, r.batchSize_pos]

theorem Bounded.takes (hb : r.Bounded) (h : r.Takes r') : r'.Bounded where
  capacity := by
    rw [h.shape.capacity]
    exact Nat.le_trans h.queue hb.capacity
  inline hp := by
    rw [h.shape.batchSize]
    exact Nat.lt_of_le_of_lt h.queue (hb.inline (h.shape.pooled ▸ hp))

/-! ### Offers -/

section Offers

variable {L : Listeners σ α β} {svc : Service σ} {budget : Nat} {item : α} {s s' : σ}

theorem Bounded.offer (hb : r.Bounded) {res : Intake}
    (h : (r.offer L svc budget item).run s = (.ok (res, r'), s')) :
    r'.Bounded ∧ r.SameShape r' ∧ (res = .full → r.capacity ≤ r.queue.length) := by
  have done : ∀ r₁ : Run α β, r.Takes r₁ → (res = .full → r.capacity ≤ r.queue.length) →
      r₁.Bounded ∧ r.SameShape r₁ ∧ (res = .full → r.capacity ≤ r.queue.length) :=
    fun r₁ ht hf => ⟨hb.takes ht, ht.shape, hf⟩
  rcases offer_starts h with ⟨-, rfl, -, e, rfl⟩ | ⟨-, e, hs, -, rfl⟩ | ⟨-, r₁, hs, h₁⟩
  · exact done _ (.refl _) fun h => Intake.noConfusion h
  · exact done _ (start_takes hs) fun h => Intake.noConfusion h
  have hst := start_takes hs
  have hq : r₁.queue = r.queue := by
    obtain ⟨st, sd, lv, rfl⟩ := start_ok_fields hs
    rfl
  rcases enqueue_shape h₁ with ⟨rfl, -, hfull⟩ | ⟨rfl, -, rfl, hcap, hless⟩ | ⟨hres, r₂, h₂, hr⟩
  · refine done _ hst fun hf => ?_
    rw [← hst.shape.capacity, ← hq]
    exact hfull hf
  · refine ⟨⟨?_, fun hp => ?_⟩, hst.shape.trans ⟨rfl, rfl, rfl, rfl⟩, fun h => Intake.noConfusion h⟩
    · simp only [List.length_append, List.length_cons, List.length_nil]
      rw [hst.shape.capacity, hq] at hcap ⊢
      omega
    · simpa only [List.length_append, List.length_singleton, hst.shape.batchSize, hq] using
        hless (hst.shape.pooled ▸ hp)
  · have ht : r.Takes r₂ := by
      refine hst.trans (Takes.trans ?_ (settle_yields Takes.stepwise 0 budget _ s r₂ s' h₂))
      exact ⟨by simp [setPhase], ⟨rfl, rfl, rfl, rfl⟩⟩
    rcases hr with rfl | rfl
    · exact done _ ht fun h => absurd h hres
    · exact done _ (ht.trans (.keep rfl ⟨rfl, rfl, rfl, rfl⟩)) fun h => absurd h hres

theorem Bounded.offer_not_full (hb : r.Bounded) (hp : r.pooled = false) {res : Intake}
    (h : (r.offer L svc budget item).run s = (.ok (res, r'), s')) : res ≠ .full := by
  intro hfull
  have hcap := (hb.offer h).2.2 hfull
  have hless := hb.inline hp
  have hle := r.batchSize_le
  omega

theorem Bounded.offer_drains (hb : r.Bounded) (hp : r.pooled = false)
    (hin : r.endpoint.style.takesInput = true) (ha : r.aborted = false) (hc : r.closed = false)
    (hl : r.live ≠ 0) (hfill : r.batchSize ≤ (r.queue ++ [item]).length) :
    (r.queue ++ [item]).length = r.batchSize ∧
      ∃ k, r.offer L svc budget item = (({ r.wake with queue := [] }).setPhase 0
        (.holding (r.queue ++ [item]) 0)).settle L svc 0 budget >>= k := by
  have hless := hb.inline hp
  simp only [List.length_append, List.length_cons, List.length_nil] at hfill ⊢
  refine ⟨by omega, ?_⟩
  obtain ⟨st, hw⟩ := wake_eq r
  have hcap : ¬r.capacity ≤ r.queue.length := by
    have hle := r.batchSize_le
    omega
  have hsend : ¬(r.queue.length + 1 < r.batchSize) := by omega
  have hs : r.start L = (.ok (), r.wake) := start_of_started L fun h => by rw [hp] at h; cases h
  unfold Run.offer Run.enqueue
  simp only [hs, hw, hin, ha, hc, hl, hp, hcap,
    hsend, Bool.not_true, Bool.false_eq_true, List.length_append, List.length_cons,
    List.length_nil, decide_false, Bool.or_false, ↓reduceIte]
  exact ⟨_, rfl⟩

theorem Bounded.accept_go :
    ∀ (fuel : Nat) {r r' : Run α β} {s s' : σ} {res : Except Error Unit}, r.Bounded →
      (accept.go L svc budget item fuel r).run s = (.ok (res, r'), s') →
        r'.Bounded ∧ r.SameShape r' := by
  intro fuel r r' s s' res hb h
  refine accept_go_chain (fun x y => x.1.Bounded → y.1.Bounded ∧ x.1.SameShape y.1)
    ?_ ?_ ?_ fuel h hb
  · intro x y z hxy hyz hx
    obtain ⟨hy, hs⟩ := hxy hx
    obtain ⟨hz, hs'⟩ := hyz hy
    exact ⟨hz, hs.trans hs'⟩
  · intro r r' s s' res h _ hb
    exact ⟨(hb.offer h).1, (hb.offer h).2.1⟩
  · intro r r₁ r₂ s s₁ s₂ h₁ h₂ hb
    obtain ⟨hb₁, hs₁, -⟩ := hb.offer h₁
    have ht := round_yields Takes.stepwise r₁ s₁ r₂ s₂ h₂
    exact ⟨hb₁.takes ht, hs₁.trans ht.shape⟩

theorem Bounded.accept_go_inline (hb : r.Bounded) (hp : r.pooled = false) (fuel : Nat)
    (s : σ) :
    (accept.go L svc budget item fuel r).run s = (accept.go L svc budget item 0 r).run s := by
  unfold accept.go
  rw [act_run_bind, act_run_bind]
  rcases h₁ : (r.offer L svc budget item).run s with ⟨_ | ⟨res, r₁⟩, s₁⟩
  · rfl
  · cases res with
    | queued => rfl
    | refused e => rfl
    | full => exact absurd rfl (hb.offer_not_full hp h₁)

theorem Bounded.move {es : List (Event α β)} (hb : r.Bounded)
    (h : Move L svc budget (r, s) es (r', s')) : r'.Bounded ∧ r.SameShape r' := by
  have done : r.Takes r' → r'.Bounded ∧ r.SameShape r' := fun ht => ⟨hb.takes ht, ht.shape⟩
  cases h with
  | offer item res h => exact ⟨(hb.offer h).1, (hb.offer h).2.1⟩
  | take i ctx _ _ => exact done (Takes.takeBatch r i)
  | call i ctx batch n res _ _ _ _ h => exact done (afterCall_yields Takes.stepwise res _ _ _ h)
  | crash i ctx batch n t _ _ _ _ =>
    exact done ((Takes.stepwise.abort r _).trans (Takes.leave _ i _))
  | abandon i ctx batch n _ _ _ => exact done (Takes.leave r i _)
  | close => exact done (close_takes L r)

theorem Bounded.await (hb : r.Bounded) {res : Except Error Report}
    (h : (r.await L svc budget).run s = (.ok (res, r'), s')) : r'.Bounded := by
  rcases await_finishes Takes.stepwise h with ⟨e, hc, -⟩ | ⟨r₁, r₂, hc, ht, hres⟩
  · exact hb.takes (start_takes (close_error hc))
  · have hc₁ : (r.close L).2 = r₁ := by rw [hc]
    have hf : r₂.finish.2 = r' := by rw [hres]
    rw [← hf]
    exact hb.takes (((hc₁ ▸ close_takes L r).trans ht).trans (finish_takes r₂))

end Offers

/-! ### Batches -/

theorem took_ready {i : Nat} {ctx : CallContext} {b : List α}
    (hw : r.workers[i]? = some ⟨ctx, .ready⟩) (hin : r.endpoint.style.takesInput = true)
    (h : Event.took i b ∈ (r.takeEvents i : List (Event α β))) :
    r.batchReady = true ∧ b = r.queue.take r.batchSize := by
  have hleave : (r.leave i .finished).workers[i]? = some ⟨ctx, .finished⟩ := by
    obtain ⟨lv, hl⟩ := leave_eq r i .finished
    simp [hl, setPhase, hw]
  unfold takeEvents takeBatch at h
  simp only [hin, Bool.not_true, Bool.false_eq_true, ↓reduceIte] at h
  cases ha : r.aborted
  · cases hr : r.batchReady
    · cases hc : r.closed
      · simp [ha, hr, hc, hw] at h
      · simp [ha, hr, hc, hleave] at h
    · simp [ha, hr, setPhase, hw] at h
      exact ⟨rfl, h⟩
  · simp [ha, hleave] at h

theorem take_length_of_batchReady (h : r.batchReady = true) :
    0 < (r.queue.take r.batchSize).length ∧ (r.queue.take r.batchSize).length ≤ r.batchSize ∧
      ((r.queue.take r.batchSize).length = r.batchSize ∨ r.closed = true) := by
  have hpos := r.batchSize_pos
  simp only [batchReady, Bool.or_eq_true, decide_eq_true_eq, Bool.and_eq_true,
    Bool.not_eq_true', List.isEmpty_eq_false_iff] at h
  rw [List.length_take]
  rcases h with h | ⟨hc, hne⟩
  · exact ⟨by omega, by omega, .inl (by omega)⟩
  · have := List.length_pos_iff.mpr hne
    exact ⟨by omega, by omega, .inr hc⟩

theorem new_bounded {e : Endpoint α β} {p : Placement} (h : Run.new e p = .ok r) :
    r.Bounded ∧ r.endpoint = e ∧ r.batchSize = max e.decl.batchSize 1 ∧
      r.capacity = max e.bulk.queueCapacity r.batchSize := by
  unfold Run.new at h
  cases hc : e.style.check e.decl with
  | error err =>
    rw [hc] at h
    cases h
  | ok u =>
    simp only [hc, bind, Except.bind, pure, Except.pure] at h
    split at h <;> cases h <;> exact ⟨.of_empty rfl, rfl, rfl, rfl⟩

section Runs

variable {L : Listeners σ α β} {svc : Service σ} {budget : Nat}

theorem Bounded.life {x y : Run α β × σ} (hb : x.1.Bounded) (h : Life L svc budget x y) :
    y.1.Bounded ∧ x.1.SameShape y.1 := by
  cases h with
  | move h => exact hb.move h
  | accept item res h => exact Bounded.accept_go budget hb h

theorem Bounded.reach {x y : Run α β × σ} (hb : x.1.Bounded)
    (h : Relation.ReflTransGen (Life L svc budget) x y) : y.1.Bounded ∧ x.1.SameShape y.1 := by
  induction h with
  | refl => exact ⟨hb, .refl _⟩
  | tail _ hs ih =>
    obtain ⟨hb', hs'⟩ := ih
    obtain ⟨hb'', hs''⟩ := hb'.life hs
    exact ⟨hb'', hs'.trans hs''⟩

end Runs

end Run

variable {L : Listeners σ α β} {svc : Service σ} {budget : Nat}

/-- The queue of a bulk run stays within its capacity and batches are taken whole. -/
theorem bulk_queue_bounds {e : Endpoint α β} {p : Placement} {r₀ r : Run α β} {s₀ s : σ}
    (hin : e.style.takesInput = true) (hnew : Run.new e p = .ok r₀)
    (hreach : Relation.ReflTransGen (Life L svc budget) (r₀, s₀) (r, s)) :
    r.batchSize = max e.decl.batchSize 1 ∧ r.capacity = max e.bulk.queueCapacity r.batchSize ∧
    r.queue.length ≤ r.capacity ∧
    (∀ i ctx b, r.workers[i]? = some ⟨ctx, .ready⟩ → Event.took i b ∈ r.takeEvents i →
      0 < b.length ∧ b.length ≤ r.batchSize ∧ (b.length = r.batchSize ∨ r.closed = true)) ∧
    (∀ s₁ res r' s', (r.await L svc budget).run s₁ = (.ok (res, r'), s') →
      r'.queue.length ≤ r'.capacity) ∧
    (r.pooled = false →
      r.queue.length < r.batchSize ∧
      (∀ item s₁ res r' s', (r.offer L svc budget item).run s₁ = (.ok (res, r'), s') →
        res ≠ .full) ∧
      (∀ item fuel s₁, (Run.accept.go L svc budget item fuel r).run s₁ =
        (Run.accept.go L svc budget item 0 r).run s₁) ∧
      (∀ item, r.aborted = false → r.closed = false → r.live ≠ 0 →
        r.batchSize ≤ (r.queue ++ [item]).length →
        (r.queue ++ [item]).length = r.batchSize ∧
          ∃ k, r.offer L svc budget item = (({ r.wake with queue := [] }).setPhase 0
            (.holding (r.queue ++ [item]) 0)).settle L svc 0 budget >>= k)) := by
  obtain ⟨hb₀, he₀, hbs₀, hcap₀⟩ := Run.new_bounded hnew
  have hb : r.Bounded := (hb₀.reach hreach).1
  have hs : r₀.SameShape r := (hb₀.reach hreach).2
  have hin' : r.endpoint.style.takesInput = true := by rw [hs.endpoint, he₀]; exact hin
  refine ⟨hs.batchSize.trans hbs₀, by rw [hs.capacity, hcap₀, hs.batchSize], hb.capacity,
    fun i ctx b hw ht => ?_, fun s₁ res r' s' h => (hb.await h).capacity,
    fun hp => ⟨hb.inline hp, fun item s₁ res r' s' h => hb.offer_not_full hp h,
      fun item fuel s₁ => hb.accept_go_inline hp fuel s₁,
      fun item ha hc hl hfill => hb.offer_drains hp hin' ha hc hl hfill⟩⟩
  obtain ⟨hready, rfl⟩ := Run.took_ready hw hin' ht
  exact Run.take_length_of_batchReady hready

theorem bulk_queue_bounds_pool :
    ∃ (e : Endpoint (List UInt8) (List UInt8)) (r₀ r : Run (List UInt8) (List UInt8))
      (s : List ScriptReply),
      Endpoint.inputOutput (.obj [("$bulk", .obj [("inputBatchSize", .num (.int 2))]),
        ("endpoint", .str "/p.sjs"),
        ("params", .arr [.obj [("datatype", .str "binaryDocument"), ("multiple", .bool true),
          ("name", .str "input"), ("nullable", .bool true)]]),
        ("return", .obj [("datatype", .str "binaryDocument"), ("multiple", .bool true),
          ("nullable", .bool true)])]) Handle.bytes Handle.bytes { queueCapacity := 3 } = .ok e ∧
      Run.new e (.pool [{}]) = .ok r₀ ∧
      Relation.ReflTransGen
        (Life Listeners.retrying Service.scripted 4)
        (r₀, [.failure (.transport "down"), .multiple [⟨none, [7]⟩]]) (r, s) ∧
      r.queue = [[3]] ∧ r.queue.length ≤ r.capacity ∧
      0 < [[3]].length ∧ [[3]].length ≤ r.batchSize ∧
      ([[3]].length = r.batchSize ∨ r.closed = true) := by
  obtain ⟨e, r₀, r, s, he, hnew, hin, hreach, hq, hw, ht⟩ :
      ∃ (e : Endpoint (List UInt8) (List UInt8)) (r₀ r : Run (List UInt8) (List UInt8))
        (s : List ScriptReply),
      Endpoint.inputOutput (.obj [("$bulk", .obj [("inputBatchSize", .num (.int 2))]),
        ("endpoint", .str "/p.sjs"),
        ("params", .arr [.obj [("datatype", .str "binaryDocument"), ("multiple", .bool true),
          ("name", .str "input"), ("nullable", .bool true)]]),
        ("return", .obj [("datatype", .str "binaryDocument"), ("multiple", .bool true),
          ("nullable", .bool true)])]) Handle.bytes Handle.bytes { queueCapacity := 3 } = .ok e ∧
      Run.new e (.pool [{}]) = .ok r₀ ∧ e.style.takesInput = true ∧
      Relation.ReflTransGen
        (Life Listeners.retrying Service.scripted 4)
        (r₀, [.failure (.transport "down"), .multiple [⟨none, [7]⟩]]) (r, s) ∧
      r.queue = [[3]] ∧ r.workers = [⟨{}, .ready⟩] ∧
      (r.takeBatch 0).workers = [⟨{}, .holding [[3]] 0⟩] :=
    ⟨_, _, _, _, rfl, rfl, rfl,
      .tail (.tail (.tail (.tail (.tail (.tail (.tail (.single
        (Life.move (Move.offer [1] .queued rfl)))
        (Life.move (Move.offer [2] .queued rfl)))
        (Life.move (Move.offer [3] .queued rfl)))
        (Life.move (Move.offer [4] .full rfl)))
        (Life.move (Move.take 0 {} rfl rfl)))
        (Life.move (Move.call 0 {} [[1], [2]] 0 _ rfl rfl rfl rfl rfl)))
        (Life.move (Move.call 0 {} [[1], [2]] 1 _ rfl rfl rfl rfl rfl)))
        (Life.move Move.close),
      by decide +kernel, by decide +kernel, by decide +kernel⟩
  have hw : r.workers[0]? = some ⟨{}, .ready⟩ := by rw [hw]; rfl
  have ht : Event.took 0 [[3]] ∈ r.takeEvents 0 := by
    unfold Run.takeEvents
    rw [ht]
    exact List.mem_singleton_self _
  have h := bulk_queue_bounds hin hnew hreach
  exact ⟨e, r₀, r, s, he, hnew, hreach, hq, h.2.2.1, h.2.2.2.1 0 {} [[3]] hw ht⟩

end EndpointCall.Bulk
