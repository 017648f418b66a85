import EndpointCall.Proofs.BulkSteps
/-! Pooled runs keep their queue in order and their batches apart. -/
namespace EndpointCall.Bulk

variable {α β σ : Type}

namespace Log

@[simp] theorem queuedItems_append (l l' : List (Event α β)) :
    queuedItems (l ++ l') = queuedItems l ++ queuedItems l' := List.filterMap_append

@[simp] theorem takenBatches_append (l l' : List (Event α β)) :
    takenBatches (l ++ l') = takenBatches l ++ takenBatches l' := List.filterMap_append

@[simp] theorem stops_append (l l' : List (Event α β)) : stops (l ++ l') = stops l + stops l' :=
  List.countP_append

@[simp] theorem queuedItems_singleton (e : Event α β) : queuedItems [e] = e.queuedItem.toList := by
  cases h : e.queuedItem <;> simp [queuedItems, h]

@[simp] theorem takenBatches_singleton (e : Event α β) :
    takenBatches [e] = e.takenBatch.toList := by
  cases h : e.takenBatch <;> simp [takenBatches, h]

@[simp] theorem stops_singleton (e : Event α β) : stops [e] = if e.stopsWorker then 1 else 0 := by
  simp [stops, List.countP_cons]

theorem stops_called (i : Nat) (b : List α) (a : Answer β) :
    stops [Event.called i b a] = if a.stopsWorker then 1 else 0 := by
  cases h : a.stopsWorker <;> simp [stops, Event.stopsWorker, h]

theorem heldBy_append (i : Nat) (log : List (Event α β)) (e : Event α β) :
    heldBy i (log ++ [e]) = Event.held i (heldBy i log) e := by
  simp [heldBy]

theorem owned_append {log : List (Event α β)} {e : Event α β} :
    Owned (log ++ [e]) ↔ Owned log ∧ ∀ i b a, e = .called i b a → heldBy i log = some b := by
  constructor
  · intro h
    exact ⟨fun pre i b a post hp => h pre i b a (post ++ [e]) (by simp [hp]),
      fun i b a he => h log i b a [] (by simp [he])⟩
  · rintro ⟨h, hlast⟩ pre i b a post hp
    rcases List.eq_nil_or_concat post with rfl | ⟨post', e', rfl⟩
    · obtain ⟨rfl, rfl⟩ := List.append_singleton_inj.1 hp
      exact hlast i b a rfl
    · have hp' : log ++ [e] = (pre ++ .called i b a :: post') ++ [e'] := by simp [hp]
      obtain ⟨rfl, rfl⟩ := List.append_singleton_inj.1 hp'
      exact h pre i b a post' rfl

theorem foldl_held_none {i : Nat} {m : List (Event α β)} (h : ∀ c, Event.took i c ∉ m) :
    m.foldl (Event.held i) none = none := by
  induction m with
  | nil => rfl
  | cons e m ih =>
    have he : Event.held i none e = none := by
      cases e with
      | queued x => rfl
      | took j c =>
        have hj : j ≠ i := fun hj => h c (by simp [hj])
        simp [Event.held, hj]
      | called j c a => simp [Event.held]
    rw [List.foldl_cons, he]
    exact ih fun c hc => h c (List.mem_cons_of_mem _ hc)

theorem Owned.took_between {log pre mid post : List (Event α β)} {i : Nat} {b b' : List α}
    {a a' : Answer β} (ho : Owned log)
    (hl : log = pre ++ .called i b a :: (mid ++ .called i b' a' :: post)) (hend : a.ends = true) :
    ∃ c, Event.took i c ∈ mid := by
  refine Classical.byContradiction fun hno => ?_
  have hheld := ho (pre ++ .called i b a :: mid) i b' a' post (by simp [hl])
  have hnone : heldBy i (pre ++ .called i b a :: mid) = none := by
    rw [show pre ++ .called i b a :: mid = (pre ++ [.called i b a]) ++ mid by simp, heldBy,
      List.foldl_append, ← heldBy, heldBy_append]
    simp only [Event.held, hend, decide_true, Bool.and_true, ↓reduceIte]
    exact foldl_held_none fun c hc => hno ⟨c, hc⟩
  rw [hnone] at hheld
  cases hheld

end Log

/-- What holds of a pooled run of an input style after the moves that showed `log`. -/
structure PoolInv (r : Run α β) (log : List (Event α β)) : Prop where
  pooled : r.pooled = true
  input : r.endpoint.style.takesInput = true
  fifo : (Log.takenBatches log).flatten ++ r.queue = Log.queuedItems log
  owned : Log.Owned log
  holds : ∀ j b n, r.phases[j]? = some (.holding b n) → Log.heldBy j log = some b
  count : r.aborted = false →
    r.calls + r.skipped + Log.stops log + r.holdingCount = (Log.takenBatches log).length

namespace PoolInv

variable {r r' : Run α β} {log : List (Event α β)}

theorem init {e : Endpoint α β} {ctxs : List CallContext} (hin : e.style.takesInput = true)
    (h : Run.new e (.pool ctxs) = .ok r) : PoolInv r [] := by
  obtain ⟨-, rfl, hp, hq, hf, hc, hk, hw⟩ := Run.new_pool h
  have hph : r.phases = ctxs.map fun _ => .ready := by
    simp only [Run.phases, hw, List.map_map]; rfl
  refine ⟨hp, hin, by simp [hq, Log.takenBatches, Log.queuedItems], fun _ _ _ _ _ h => by simp at h,
    fun j b n h => ?_, fun _ => ?_⟩
  · rw [hph, List.getElem?_map] at h
    cases hj : ctxs[j]? <;> simp [hj] at h
  have h0 : r.holdingCount = 0 := by
    rw [Run.holdingCount, hph, List.countP_map]
    exact List.countP_eq_zero.2 fun _ _ => by simp [Phase.isHolding]
  simp only [hc, hk, h0, Log.stops, Log.takenBatches, List.countP_nil, List.filterMap_nil,
    List.length_nil]

theorem holds_set {i : Nat} {p : Phase α} {e : Event α β} (hi : PoolInv r log)
    (hother : ∀ j, j ≠ i → Event.held j (Log.heldBy j log) e = Log.heldBy j log)
    (hself : ∀ b n, p = .holding b n → Event.held i (Log.heldBy i log) e = some b) :
    ∀ j b n, (r.phases.set i p)[j]? = some (.holding b n) → Log.heldBy j (log ++ [e]) = some b := by
  intro j b n h
  rw [Log.heldBy_append]
  by_cases hij : i = j
  · subst hij
    rw [List.getElem?_set_self'] at h
    obtain ⟨_, -, hp⟩ := Option.map_eq_some_iff.1 h
    exact hself b n hp
  · rw [List.getElem?_set_ne hij] at h
    rw [hother j (Ne.symm hij)]
    exact hi.holds j b n h

theorem restage (hi : PoolInv r log) (st : Stage) (sd : Bool) (lv : Nat) (c : Bool) :
    PoolInv { r with stage := st, started := sd, live := lv, closed := c } log :=
  ⟨hi.pooled, hi.input, hi.fifo, hi.owned, hi.holds, hi.count⟩

theorem abort (hi : PoolInv r log) (e : Error) : PoolInv (r.abort e) log :=
  ⟨hi.pooled, hi.input, hi.fifo, hi.owned, hi.holds, fun h => by simp [Run.abort] at h⟩

theorem stopFrom_abort (hi : PoolInv r log) (k : Nat) (e : Error) :
    PoolInv ((r.stopFrom k).abort e) log := by
  refine ⟨hi.pooled, hi.input, hi.fifo, hi.owned, fun j b n h => ?_,
    fun h => by simp [Run.abort] at h⟩
  rcases Run.stopFrom_phase h with h | ⟨-, h⟩
  · exact hi.holds j b n h
  · cases h

theorem start {L : Listeners σ α β} {x : Except Error Unit} (hi : PoolInv r log)
    (h : r.start L = (x, r')) : PoolInv r' log := by
  rcases Run.start_cases h with ⟨st, sd, lv, rfl⟩ | ⟨e, st, lv, k, rfl⟩
  · exact hi.restage st sd lv r.closed
  · exact (hi.restage st true lv r.closed).stopFrom_abort k e

theorem close (L : Listeners σ α β) (hi : PoolInv r log) : PoolInv (r.close L).2 log := by
  rcases Run.close_cases L r with ⟨st, sd, lv, h⟩ | ⟨e, st, lv, k, h⟩
  · rw [h]; exact hi.restage st sd lv true
  · rw [h]; exact (hi.restage st true lv r.closed).stopFrom_abort k e

theorem enqueue (hi : PoolInv r log) (x : α) :
    PoolInv { r with queue := r.queue ++ [x] } (log ++ [.queued x]) := by
  refine ⟨hi.pooled, hi.input, ?_, ?_, ?_, ?_⟩
  · simp [Event.takenBatch, Event.queuedItem, ← hi.fifo]
  · exact Log.owned_append.2 ⟨hi.owned, fun _ _ _ h => by cases h⟩
  · intro j b n h
    rw [Log.heldBy_append]
    exact hi.holds j b n h
  · intro ha
    simp only [Log.stops_append, Log.takenBatches_append, Log.stops_singleton,
      Log.takenBatches_singleton, Event.stopsWorker, Event.takenBatch, Bool.false_eq_true,
      ↓reduceIte, Nat.add_zero, Option.toList_none, List.append_nil]
    exact hi.count ha

theorem take (hi : PoolInv r log) {i : Nat} (hr : r.phases[i]? = some .ready)
    (ha : r.aborted = false) (k : Nat) :
    PoolInv (({ r with queue := r.queue.drop k }).setPhase i (.holding (r.queue.take k) 0))
      (log ++ [.took i (r.queue.take k)]) := by
  have hph : (({ r with queue := r.queue.drop k }).setPhase i
      (.holding (r.queue.take k) 0)).phases = r.phases.set i (.holding (r.queue.take k) 0) :=
    Run.phases_setPhase _ _ _
  refine ⟨hi.pooled, hi.input, ?_, ?_, ?_, ?_⟩
  · have := hi.fifo
    simp only [Log.takenBatches_append, Log.takenBatches_singleton, Log.queuedItems_append,
      Log.queuedItems_singleton, Event.takenBatch, Event.queuedItem, Option.toList_some,
      Option.toList_none, List.flatten_append, List.flatten_singleton, List.append_nil,
      List.append_assoc] at this ⊢
    simpa [Run.setPhase] using this
  · exact Log.owned_append.2 ⟨hi.owned, fun _ _ _ h => by cases h⟩
  · rw [hph]
    exact hi.holds_set (fun j hj => by simp [Event.held, Ne.symm hj])
      (fun b n h => by cases h; simp [Event.held])
  · intro _
    have hset := Run.holdingCount_set hr (.holding (r.queue.take k) 0)
    have hc := hi.count ha
    simp only [Run.holdingCount, hph] at hset hc ⊢
    simp [Phase.isHolding, Event.stopsWorker, Event.takenBatch, Run.setPhase] at hset hc ⊢
    omega

theorem leave (hi : PoolInv r log) {i : Nat} {q p : Phase α} (hq : r.phases[i]? = some q)
    (hidle : q.isHolding = true → r.aborted = true) (hp : p.isHolding = false) :
    PoolInv (r.leave i p) log := by
  obtain ⟨lv, hl⟩ := Run.leave_eq r i p
  have hph : (r.leave i p).phases = r.phases.set i p := Run.phases_leave r i p
  have ha : (r.leave i p).aborted = r.aborted := by rw [hl]; rfl
  refine ⟨by rw [hl]; exact hi.pooled, by rw [hl]; exact hi.input, by rw [hl]; exact hi.fifo,
    hi.owned, ?_, ?_⟩
  · intro j b n h
    rw [hph] at h
    by_cases hij : i = j
    · subst hij
      rw [List.getElem?_set_self'] at h
      obtain ⟨_, -, hp'⟩ := Option.map_eq_some_iff.1 h
      have hpb : p = .holding b n := hp'
      simp [hpb, Phase.isHolding] at hp
    · rw [List.getElem?_set_ne hij] at h
      exact hi.holds j b n h
  · intro ha'
    have hr : r.aborted = false := ha ▸ ha'
    have hq' : q.isHolding = false := by
      cases hh : q.isHolding
      · rfl
      · simp [hidle hh] at hr
    have hset := Run.holdingCount_set hq p
    have hc := hi.count hr
    simp only [Run.holdingCount, hph] at hset hc ⊢
    rw [hl]
    simp only [hq', hp, Bool.false_eq_true, ↓reduceIte, Nat.add_zero] at hset
    simpa [Run.setPhase, hset] using hc

theorem call (hi : PoolInv r log) {i : Nat} {b : List α} {n : UInt32} {a : Answer β} {p : Phase α}
    (hh : r.phases[i]? = some (.holding b n)) (hs : Run.Settled r r' i b a p) :
    PoolInv r' (log ++ [.called i b a]) := by
  have hheld : Log.heldBy i log = some b := hi.holds i b n hh
  refine ⟨hs.pooled ▸ hi.pooled, hs.endpoint ▸ hi.input, ?_, ?_, ?_, ?_⟩
  · rw [hs.queue]
    simpa [Event.takenBatch, Event.queuedItem] using hi.fifo
  · exact Log.owned_append.2 ⟨hi.owned, fun j b' a' he => by cases he; exact hheld⟩
  · rw [hs.phases]
    refine hi.holds_set (fun j hj => by simp [Event.held, Ne.symm hj]) fun b' n' hp => ?_
    obtain ⟨hend, rfl⟩ := hs.holds b' n' hp
    simp [Event.held, hend, hheld]
  · intro ha
    have hsum := hs.sums ha
    have hset := Run.holdingCount_set hh p
    have hc := hi.count (hs.aborted ha)
    simp only [Run.holdingCount, hs.phases, Phase.isHolding_holding, ↓reduceIte] at hset hc ⊢
    rw [Log.stops_append, Log.stops_called, Log.takenBatches_append, Log.takenBatches_singleton]
    simp only [Event.takenBatch, Option.toList_none, List.append_nil]
    cases hsw : a.stopsWorker <;> cases hpb : p.isHolding <;>
      simp only [hsw, hpb, Bool.false_eq_true, ↓reduceIte] at hsum hset ⊢ <;> omega

variable {L : Listeners σ α β} {svc : Service σ} {budget : Nat}

theorem move {x y : Run α β × σ} {es : List (Event α β)} (hi : PoolInv x.1 log)
    (hm : Move L svc budget x es y) : PoolInv y.1 (log ++ es) := by
  cases hm with
  | offer item res h =>
    obtain ⟨-, ⟨rfl, r₁, hs, rfl⟩ | ⟨hev, rfl | ⟨_, hs⟩⟩⟩ := Run.offer_pooled hi.pooled h
    · exact (hi.start hs).enqueue item
    · rw [hev, List.append_nil]; exact hi
    · rw [hev, List.append_nil]; exact hi.start hs
  | @take r s i ctx _ hw =>
    have hr : r.phases[i]? = some .ready := by simp [Run.phases, hw]
    rcases Run.take_cases hw hi.input with ⟨ha, ht, he⟩ | ⟨ht, he⟩ | ⟨ht, he⟩
    · rw [ht, he]; exact hi.take hr ha _
    · rw [ht, he, List.append_nil]; exact hi.leave hr (by simp [Phase.isHolding]) rfl
    · rw [ht, he, List.append_nil]; exact hi
  | @call r r' s s₁ s' i ctx batch n res _ hw _ _ h =>
    obtain ⟨p, hs⟩ := Run.afterCall_settled hi.pooled hi.input h
    exact hi.call (show r.phases[i]? = some (.holding batch n) by simp [Run.phases, hw]) hs
  | @abandon r s i ctx batch n _ hw ha =>
    rw [List.append_nil]
    exact hi.leave (show r.phases[i]? = some (.holding batch n) by simp [Run.phases, hw])
      (fun _ => ha) rfl
  | @crash r s s' i ctx batch n t _ _ hw _ =>
    rw [List.append_nil]
    exact (hi.abort (panicError t)).leave
      (show r.phases[i]? = some (.holding batch n) by simp [Run.phases, hw]) (fun _ => rfl) rfl
  | close =>
    rw [List.append_nil]; exact hi.close L

theorem runs {x y : Run α β × σ} {es : List (Event α β)} (hi : PoolInv x.1 log)
    (h : Runs L svc budget x es y) : PoolInv y.1 (log ++ es) := by
  induction h with
  | refl => simpa using hi
  | tail _ hm ih => simpa using ih.move hm

end PoolInv
end EndpointCall.Bulk
