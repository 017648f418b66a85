import EndpointCall.Proofs.BulkQueue
/-! The turns of a bulk run's workers, and the sums they keep. -/
namespace EndpointCall.Bulk

variable {α β σ : Type}

namespace Answer

def retried : Answer β → Bool
  | .failure _ (some (.dispose .retry)) => true
  | _ => false

def skipped : Answer β → Bool
  | .failure _ (some (.dispose .skip)) => true
  | _ => false

def failed : Answer β → Bool
  | .failure _ _ => true
  | .success _ => false

end Answer

namespace Event

def retried : Event α β → Bool
  | .called _ _ a => a.retried
  | _ => false

def skipped : Event α β → Bool
  | .called _ _ a => a.skipped
  | _ => false

def failures (i k : Nat) : Event α β → Nat
  | .queued _ => k
  | .took j _ => if j = i then 0 else k
  | .called j _ a => if j = i ∧ a.failed then k + 1 else k

end Event

namespace Log

def retries (log : List (Event α β)) : Nat := log.countP Event.retried

def skips (log : List (Event α β)) : Nat := log.countP Event.skipped

/-- How many calls of worker `i` have failed since it was last handed a batch. -/
def failuresSince (i : Nat) (log : List (Event α β)) : Nat := log.foldl (Event.failures i) 0

@[simp] theorem retries_append (l l' : List (Event α β)) :
    retries (l ++ l') = retries l + retries l' :=
  List.countP_append

@[simp] theorem skips_append (l l' : List (Event α β)) : skips (l ++ l') = skips l + skips l' :=
  List.countP_append

@[simp] theorem retries_nil : retries ([] : List (Event α β)) = 0 := rfl

@[simp] theorem skips_nil : skips ([] : List (Event α β)) = 0 := rfl

theorem failuresSince_append (i : Nat) (log es : List (Event α β)) :
    failuresSince i (log ++ es) = es.foldl (Event.failures i) (failuresSince i log) :=
  List.foldl_append

end Log

namespace Run

def contexts (r : Run α β) : List CallContext := r.workers.map (·.context)

@[simp] theorem contexts_setPhase (r : Run α β) (i : Nat) (p : Phase α) :
    (r.setPhase i p).contexts = r.contexts := by
  apply List.ext_getElem?
  intro j
  simp only [contexts, setPhase, List.getElem?_map, List.getElem?_modify]
  split <;> cases r.workers[j]? <;> simp

@[simp] theorem contexts_setContext (r : Run α β) (i : Nat) (ctx : CallContext) :
    (r.setContext i ctx).contexts = r.contexts.set i ctx := by
  apply List.ext_getElem?
  intro j
  simp only [contexts, setContext, List.getElem?_map, List.getElem?_modify, List.getElem?_set,
    List.length_map]
  split
  · subst_vars
    cases h : r.workers[j]? with
    | none => simp [List.getElem?_eq_none_iff.1 h]
    | some w => simp [(List.getElem?_eq_some_iff.1 h).1]
  · simp

@[simp] theorem contexts_leave (r : Run α β) (i : Nat) (p : Phase α) :
    (r.leave i p).contexts = r.contexts := by
  obtain ⟨lv, h⟩ := leave_eq r i p
  rw [h]
  exact contexts_setPhase r i p

@[simp] theorem contexts_abort (r : Run α β) (e : Error) : (r.abort e).contexts = r.contexts :=
  rfl

@[simp] theorem contexts_stopFrom (r : Run α β) (k : Nat) :
    (r.stopFrom k).contexts = r.contexts := by
  apply List.ext_getElem?
  intro j
  simp only [contexts, stopFrom, List.getElem?_map, List.getElem?_mapIdx]
  cases r.workers[j]? with
  | none => rfl
  | some w =>
    simp only [Option.map_some]
    split <;> rfl

/-! The fields that the worker updates leave alone. -/

section Fields

variable (r : Run α β) (i : Nat)

@[simp] theorem endpoint_setPhase (p : Phase α) : (r.setPhase i p).endpoint = r.endpoint := rfl

@[simp] theorem retries_setPhase (p : Phase α) : (r.setPhase i p).retries = r.retries := rfl

@[simp] theorem skipped_setPhase (p : Phase α) : (r.setPhase i p).skipped = r.skipped := rfl

@[simp] theorem endpoint_setContext (ctx : CallContext) :
    (r.setContext i ctx).endpoint = r.endpoint := rfl

@[simp] theorem retries_setContext (ctx : CallContext) :
    (r.setContext i ctx).retries = r.retries := rfl

@[simp] theorem skipped_setContext (ctx : CallContext) :
    (r.setContext i ctx).skipped = r.skipped := rfl

@[simp] theorem endpoint_abort (e : Error) : (r.abort e).endpoint = r.endpoint := rfl

@[simp] theorem retries_abort (e : Error) : (r.abort e).retries = r.retries := rfl

@[simp] theorem skipped_abort (e : Error) : (r.abort e).skipped = r.skipped := rfl

@[simp] theorem endpoint_leave (p : Phase α) : (r.leave i p).endpoint = r.endpoint := by
  obtain ⟨lv, h⟩ := leave_eq r i p
  rw [h]
  rfl

@[simp] theorem retries_leave (p : Phase α) : (r.leave i p).retries = r.retries := by
  obtain ⟨lv, h⟩ := leave_eq r i p
  rw [h]
  rfl

@[simp] theorem skipped_leave (p : Phase α) : (r.leave i p).skipped = r.skipped := by
  obtain ⟨lv, h⟩ := leave_eq r i p
  rw [h]
  rfl

@[simp] theorem failure_setPhase (p : Phase α) : (r.setPhase i p).failure = r.failure := rfl

@[simp] theorem failure_setContext (ctx : CallContext) :
    (r.setContext i ctx).failure = r.failure := rfl

@[simp] theorem failure_abort (e : Error) : (r.abort e).failure = some e := rfl

@[simp] theorem failure_leave (p : Phase α) : (r.leave i p).failure = r.failure := by
  obtain ⟨lv, h⟩ := leave_eq r i p
  rw [h]
  rfl

@[simp] theorem phases_sums (c rt sk : Nat) :
    ({ r with calls := c, retries := rt, skipped := sk }).phases = r.phases := rfl

@[simp] theorem contexts_sums (c rt sk : Nat) :
    ({ r with calls := c, retries := rt, skipped := sk }).contexts = r.contexts := rfl

end Fields

theorem afterCall_turn {L : Listeners σ α β} {r r' : Run α β} {i : Nat} {batch : List α}
    {n : UInt32} {res : Except Error (List β × Bool) × CallContext} {s s' : σ}
    (h : (r.afterCall L i batch n res).run s = (.ok r', s')) :
    ∃ p, r'.phases = r.phases.set i p ∧ r'.contexts = r.contexts.set i res.2 ∧
      r'.endpoint = r.endpoint ∧
      (∀ b m, p = .holding b m →
        b = batch ∧ m = saturatingSucc n ∧ (answerOf L batch n s res).retried) ∧
      r'.retries = r.retries + (if (answerOf L batch n s res).retried then 1 else 0) ∧
      r'.skipped = r.skipped + (if (answerOf L batch n s res).skipped then 1 else 0) := by
  obtain ⟨out, ctx⟩ := res
  rcases out with e | ⟨outs, more⟩
  case' error =>
    obtain ⟨hv, -⟩ := afterCall_failure h
    have ha : answerOf L batch n s (.error e, ctx) =
        .failure e ((L.verdict n e ctx batch).run s).1 := rfl
    rw [ha]
    generalize ((L.verdict n e ctx batch).run s).1 = v at hv ⊢
    rcases v with _ | ⟨⟨_ | _ | _ | _⟩ | t⟩ <;> simp only [afterVerdict, Except.ok.injEq] at hv
    case' some.fail => obtain ⟨-, hv⟩ := afterPanic_ok hv
    all_goals try split at hv
    all_goals try cases hv
  case' ok =>
    obtain ⟨x, -, hr⟩ := afterCall_success h
    rcases hr with ⟨-, hr⟩ | ⟨t, -, -, hr⟩
    case' inl => cases more <;> simp only [Bool.false_eq_true, ↓reduceIte] at hr
    all_goals subst hr
  all_goals
    constructor
    refine ⟨?_, ?_, by simp, fun b m h => ?_, by simp [answerOf, Answer.retried],
      by simp [answerOf, Answer.skipped]⟩
    · simp only [phases_setPhase, phases_leave, phases_abort, phases_sums, phases_setContext]
      rfl
    · simp only [contexts_setPhase, contexts_leave, contexts_abort, contexts_sums,
        contexts_setContext]
    · cases h <;> simp [Answer.retried]

end Run

/-- A turn of a bulk run as its workers see it, with the events it shows. -/
inductive Turn (L : Listeners σ α β) (svc : Service σ) :
    Run α β × σ → List (Event α β) → Run α β × σ → Prop
  | call {r r' : Run α β} {s s₁ s' : σ} (i : Nat) (ctx : CallContext) (batch : List α)
      (n : UInt32) (res : Except Error (List β × Bool) × CallContext) :
      r.workers[i]? = some ⟨ctx, .holding batch n⟩ → r.aborted = false →
      ((r.endpoint.bulkCall svc batch).run.run ctx).run s = (res, s₁) →
      (r.afterCall L i batch n res).run s₁ = (.ok r', s') →
      Turn L svc (r, s) [.called i batch (Run.answerOf L batch n s₁ res)] (r', s')
  | hand {r : Run α β} {s : σ} (i : Nat) (batch : List α) :
      Turn L svc (r, s) [.took i batch] (r.setPhase i (.holding batch 0), s)
  | crash {r : Run α β} {s s' : σ} (i : Nat) (t : Option String) :
      Turn L svc (r, s) [] ((r.abort (panicError t)).leave i .stopped, s')
  | rest {r r' : Run α β} {s : σ} :
      r'.endpoint = r.endpoint → r'.contexts = r.contexts → r'.retries = r.retries →
      r'.skipped = r.skipped →
      (∀ (j : Nat) (b : List α) (m : UInt32), r'.phases[j]? = some (.holding b m) →
        r.phases[j]? = some (.holding b m)) →
      Turn L svc (r, s) [] (r', s)

inductive Turns (L : Listeners σ α β) (svc : Service σ) :
    Run α β × σ → List (Event α β) → Run α β × σ → Prop
  | refl (x : Run α β × σ) : Turns L svc x [] x
  | tail {x y z : Run α β × σ} {es e : List (Event α β)} :
      Turns L svc x es y → Turn L svc y e z → Turns L svc x (es ++ e) z

section Turns

variable {L : Listeners σ α β} {svc : Service σ}

theorem Turns.single {x y : Run α β × σ} {es : List (Event α β)} (h : Turn L svc x es y) :
    Turns L svc x es y := by
  simpa using Turns.tail (Turns.refl x) h

theorem Turns.trans {x y z : Run α β × σ} {es es' : List (Event α β)}
    (h₁ : Turns L svc x es y) (h₂ : Turns L svc y es' z) : Turns L svc x (es ++ es') z := by
  induction h₂ with
  | refl => simpa using h₁
  | tail _ hm ih => simpa using ih.tail hm

/-! ### What every turn keeps -/

theorem Turn.endpoint {r r' : Run α β} {s s' : σ} {es : List (Event α β)}
    (h : Turn L svc (r, s) es (r', s')) : r'.endpoint = r.endpoint := by
  cases h with
  | call i ctx batch n res _ _ _ h => exact (Run.afterCall_turn h).choose_spec.2.2.1
  | hand => rfl
  | crash => simp
  | rest he => exact he

theorem Turn.sums {r r' : Run α β} {s s' : σ} {es : List (Event α β)}
    (h : Turn L svc (r, s) es (r', s')) :
    r'.retries = r.retries + Log.retries es ∧ r'.skipped = r.skipped + Log.skips es := by
  cases h with
  | call i ctx batch n res _ _ _ h =>
    obtain ⟨-, -, -, -, -, hrt, hsk⟩ := Run.afterCall_turn h
    rw [hrt, hsk]
    generalize Run.answerOf L batch _ _ res = a
    cases hr : a.retried <;> cases hs : a.skipped <;>
      simp [Log.retries, Log.skips, Event.retried, Event.skipped, hr, hs]
  | hand => simp [Log.retries, Log.skips, Event.retried, Event.skipped]
  | crash => simp
  | rest _ _ hrt hsk => simp [hrt, hsk]

/-- Every worker holding a batch has failed with it as often as its phase counts. -/
def Counted (r : Run α β) (log : List (Event α β)) : Prop :=
  ∀ i b n, r.phases[i]? = some (.holding b n) →
    n.toNat = min (Log.failuresSince i log) maxRetry.toNat

theorem Counted.set {r r' : Run α β} {log es : List (Event α β)} {i : Nat} {p : Phase α}
    (hc : Counted r log) (hph : r'.phases = r.phases.set i p)
    (hother : ∀ j, j ≠ i → es.foldl (Event.failures j) (Log.failuresSince j log) =
      Log.failuresSince j log)
    (hp : ∀ b m, p = .holding b m →
      m.toNat = min (Log.failuresSince i (log ++ es)) maxRetry.toNat) :
    Counted r' (log ++ es) := by
  intro j b m hj
  rw [hph, List.getElem?_set] at hj
  split at hj
  · subst_vars
    split at hj
    · exact hp b m (Option.some.inj hj)
    · cases hj
  · rw [Log.failuresSince_append, hother j (Ne.symm ‹¬i = j›)]
    exact hc j b m hj

theorem Turn.context {r r' : Run α β} {s s' : σ} {es : List (Event α β)} {i : Nat}
    (hkeep : ∀ batch ctx s err ctx' s', ((r.endpoint.bulkCall svc batch).run.run ctx).run s =
      ((.error err, ctx'), s') → ctx' = ctx)
    (h : Turn L svc (r, s) es (r', s')) (hs : ∀ b outs, Event.called i b (.success outs) ∉ es) :
    r'.contexts[i]? = r.contexts[i]? := by
  cases h with
  | call j ctx batch n res hw _ hcall h =>
    obtain ⟨-, -, hctx, -⟩ := Run.afterCall_turn h
    have hj : r.contexts[j]? = some ctx := by simp [Run.contexts, hw]
    rw [hctx, List.getElem?_set]
    split
    · subst_vars
      obtain ⟨out, ctx'⟩ := res
      rcases out with err | ⟨outs, more⟩
      · obtain rfl := hkeep batch ctx s err ctx' _ hcall
        rw [hj, if_pos (List.getElem?_eq_some_iff.1 hj).1]
      · exact absurd (List.mem_singleton_self _) (hs batch outs)
    · rfl
  | hand => simp
  | crash => simp
  | rest _ hctx => rw [hctx]

/-! ### What every sequence of turns keeps -/

theorem Turns.endpoint {x y : Run α β × σ} {es : List (Event α β)} (h : Turns L svc x es y) :
    y.1.endpoint = x.1.endpoint := by
  induction h with
  | refl => rfl
  | tail _ ht ih => exact ht.endpoint.trans ih

theorem Turns.sums {x y : Run α β × σ} {es : List (Event α β)} (h : Turns L svc x es y) :
    y.1.retries = x.1.retries + Log.retries es ∧ y.1.skipped = x.1.skipped + Log.skips es := by
  induction h with
  | refl => simp
  | tail _ ht ih =>
    obtain ⟨hrt, hsk⟩ := ht.sums
    rw [hrt, hsk, ih.1, ih.2, Log.retries_append, Log.skips_append]
    omega

theorem Turns.context {x y : Run α β × σ} {es : List (Event α β)} {i : Nat}
    (hkeep : ∀ batch ctx s err ctx' s', ((x.1.endpoint.bulkCall svc batch).run.run ctx).run s =
      ((.error err, ctx'), s') → ctx' = ctx)
    (h : Turns L svc x es y) (hs : ∀ b outs, Event.called i b (.success outs) ∉ es) :
    y.1.contexts[i]? = x.1.contexts[i]? := by
  induction h with
  | refl => rfl
  | tail hxy ht ih =>
    have hs' : ∀ b outs, Event.called i b (.success outs) ∉ _ :=
      fun b outs hm => hs b outs (List.mem_append_left _ hm)
    rw [ht.context (by rw [hxy.endpoint]; exact hkeep)
      (fun b outs hm => hs b outs (List.mem_append_right _ hm)), ih hs']

/-! ### Every computation of a run is a sequence of turns -/

namespace Run

variable {r : Run α β} {s : σ}

variable {budget : Nat}

end Run

end Turns

end EndpointCall.Bulk
