import EndpointCall.Proofs.BulkFailures
import EndpointCall.Proofs.CallRequest
import Mathlib.Data.List.Induction
/-! The loops of bulk workers of the styles without input. -/
namespace EndpointCall

variable {α β σ γ δ : Type}

namespace Caller

variable {c : Caller α β} {svc : Service σ} {input : Option (List α)} {m : CallM σ γ}
  {R : Response → γ → Prop}

theorem Law.map (hl : c.Law svc input m R) (f : γ → δ) {R' : Response → δ → Prop}
    (hf : ∀ resp a, R resp a → R' resp (f a)) :
    c.Law svc input (m >>= fun a => pure (f a)) R' := by
  intro ctx s res ctx' s' h
  rw [callM_run_bind] at h
  rcases hm : ((m.run).run ctx).run s with ⟨⟨err | a, ctx₁⟩, s₁⟩ <;> simp only [hm] at h
  · cases h
    exact ⟨fun _ _ => (hl ctx s _ _ _ hm).1 err rfl, fun _ hv => nomatch hv⟩
  · rw [callM_run_pure] at h
    cases h
    obtain ⟨req, shape, resp, hreq, hsend, hleaves, hR⟩ := (hl ctx s _ _ _ hm).2 a rfl
    exact ⟨fun _ he => (nomatch he), fun v hv => by
      cases hv
      exact ⟨req, shape, resp, hreq, hsend, hleaves, hf _ _ hR⟩⟩

theorem Law.map_context (hl : c.Law svc input m R) (f : γ → CallContext → δ)
    {R' : Response → δ → Prop}
    (hf : ∀ ctx ctx' resp a, c.Leaves ctx ctx' resp → R resp a → R' resp (f a ctx')) :
    c.Law svc input (do let a ← m; let ctx ← get; pure (f a ctx)) R' := by
  intro ctx s res ctx' s' h
  rw [callM_run_bind] at h
  rcases hm : ((m.run).run ctx).run s with ⟨⟨err | a, ctx₁⟩, s₁⟩ <;> simp only [hm] at h
  · cases h
    exact ⟨fun _ _ => (hl ctx s _ _ _ hm).1 err rfl, fun _ hv => nomatch hv⟩
  · rw [callM_run_bind, callM_run_get] at h
    dsimp only at h
    rw [callM_run_pure] at h
    cases h
    obtain ⟨req, shape, resp, hreq, hsend, hleaves, hR⟩ := (hl ctx s _ _ _ hm).2 a rfl
    exact ⟨fun _ he => (nomatch he), fun v hv => by
      cases hv
      exact ⟨req, shape, resp, hreq, hsend, hleaves, hf _ _ _ _ hleaves hR⟩⟩

end Caller

namespace Endpoint

def goesOn (e : Endpoint α β) (resp : Response) (outs : List β) : Bool :=
  match e.style with
  | .output => !outs.isEmpty &&
      (e.decl.endpointState.isNone || (Caller.leadState (Caller.documents resp)).isSome)
  | .exec => e.decl.returns.isSome && (Caller.leadState (Caller.documents resp)).isSome
  | .inputOutput | .input => true

variable (e : Endpoint α β) (svc : Service σ)

theorem callExec_more (hf : e.decl.endpointState.isSome → e.decl.returns.isSome) :
    Caller.Law e.caller svc none (e.callExec svc) fun resp b =>
      b = (e.decl.returns.isSome && (Caller.leadState (Caller.documents resp)).isSome) := by
  refine Caller.law_of_answers fun req => ?_
  split
  · rename_i hr
    refine (Caller.responseWithState_answers _ svc req).mono fun resp b hb => ?_
    rw [hr, Bool.true_and]
    exact hb
  · rename_i hr
    have hs : e.caller.decl.endpointState = none :=
      Option.not_isSome_iff_eq_none.1 fun h => hr (hf h)
    refine (Caller.responseNone_answers _ svc req hs).bind_pure (fun _ => false) ?_
    intro _ _ _
    simp only [Bool.not_eq_true] at hr
    rw [hr, Bool.false_and]

theorem bulkCall_law (batch : List α) (hf : e.decl.endpointState.isSome → e.decl.returns.isSome)
    (hin : e.style.takesInput = false) :
    Caller.Law e.caller svc none (e.bulkCall svc batch) fun resp res =>
      res.2 = e.goesOn resp res.1 ∧ (e.style = .exec → res.1 = []) := by
  unfold bulkCall
  cases hs : e.style with
  | inputOutput => simp [hs, CallStyle.takesInput] at hin
  | input => simp [hs, CallStyle.takesInput] at hin
  | output =>
    refine (e.callOutput_law svc).map_context _ fun ctx ctx' resp outs hl _ =>
      ⟨?_, fun h => CallStyle.noConfusion h⟩
    unfold goesOn decl
    rw [hs, hl.endpointState]
    cases e.caller.decl.endpointState <;> simp
  | exec =>
    exact (e.callExec_more svc hf).map _ fun resp b hb =>
      ⟨by unfold goesOn; rw [hs, hb], fun _ => rfl⟩

end Endpoint

namespace Bulk

/-- How a call of a bulk worker came out. -/
inductive Outcome (β : Type) where
  | success (outs : List β) (more : Bool)
  | panicked (outs : List β) (text : Option String)
  | failure (e : Error) (verdict : Option Verdict)

namespace Outcome

def succeeded : Outcome β → Bool
  | .success _ _ | .panicked _ _ => true
  | .failure _ _ => false

def goesOn : Outcome β → Bool
  | .success _ more => more
  | .panicked _ _ => false
  | .failure _ (some (.dispose .retry)) => true
  | .failure _ _ => false

def aborts : Outcome β → Bool
  | .panicked _ _ => true
  | .failure _ none => true
  | .failure _ (some (.dispose .stopAll)) => true
  | .failure _ (some (.fail _)) => true
  | _ => false

end Outcome

structure Call (β : Type) where
  worker : Nat
  sent : CallContext
  outcome : Outcome β
  left : CallContext

def Run.outcomeOf (L : Listeners σ α β) (batch : List α) (n : UInt32) (s : σ) :
    Except Error (List β × Bool) × CallContext → Outcome β
  | (.ok (outs, more), _) =>
    match ((dispatch L outs).run s).1 with
    | .returned => .success outs more
    | .panicked t => .panicked outs t
  | (.error e, ctx) => .failure e ((L.verdict n e ctx batch).run s).1

/-- What a call shows of its endpoint. -/
def Call.Fits (e : Endpoint α β) (c : Call β) : Prop :=
  match c.outcome with
  | .success outs more =>
    (∃ req resp, e.caller.makeRequest c.sent none = .ok req ∧ e.caller.Leaves c.sent c.left resp ∧
      more = e.goesOn resp outs) ∧ (e.style = .exec → outs = [])
  | .panicked outs _ =>
    (∃ req resp, e.caller.makeRequest c.sent none = .ok req ∧ e.caller.Leaves c.sent c.left resp) ∧
      (e.style = .exec → outs = [])
  | .failure _ _ => c.left = c.sent

namespace Call

variable {e : Endpoint α β} {c : Call β} {outs : List β} {more : Bool}

theorem Fits.output_stops (hc : c.Fits e) (hs : e.style = .output)
    (ho : c.outcome = .success outs more) :
    more = false ↔ outs = [] ∨ (e.decl.endpointState.isSome ∧ c.left.endpointState = none) := by
  unfold Fits at hc
  rw [ho] at hc
  obtain ⟨⟨req, resp, -, hl, hmore⟩, -⟩ := hc
  have hst := hl.endpointState
  simp only [Endpoint.goesOn, hs] at hmore
  rw [hmore]
  cases hd : e.decl.endpointState with
  | none => cases outs <;> simp
  | some p =>
    have hd' : e.caller.decl.endpointState = some p := hd
    rw [hd', Option.isSome_some, if_pos rfl] at hst
    rw [hst]
    cases outs <;> simp [Option.isNone_iff_eq_none]

theorem Fits.exec_stops (hf : e.decl.endpointState.isSome → e.decl.returns.isSome)
    (hc : c.Fits e) (hs : e.style = .exec) (ho : c.outcome = .success outs false) :
    c.left.endpointState = none := by
  unfold Fits at hc
  rw [ho] at hc
  obtain ⟨⟨req, resp, hreq, hl, hmore⟩, -⟩ := hc
  have hst := hl.endpointState
  simp only [Endpoint.goesOn, hs] at hmore
  cases hd : e.decl.endpointState.isSome
  · have hd' : e.caller.decl.endpointState.isSome = false := hd
    rw [hd', if_neg Bool.false_ne_true] at hst
    rw [hst]
    have hsent := (Caller.makeRequest_ok_iff.1 ⟨req, hreq⟩).state
    rw [hd'] at hsent
    simpa using hsent
  · have hd' : e.caller.decl.endpointState.isSome = true := hd
    rw [hd', if_pos rfl] at hst
    rw [hst]
    rw [hf hd, Bool.true_and] at hmore
    exact Option.not_isSome_iff_eq_none.1 (by rw [← hmore]; exact Bool.false_ne_true)

end Call

namespace Log

def contextAfter (i : Nat) (ctx : CallContext) (log : List (Call β)) : CallContext :=
  log.foldl (fun ctx c => if c.worker = i ∧ c.outcome.succeeded then c.left else ctx) ctx

def successes (log : List (Call β)) : Nat := log.countP (·.outcome.succeeded)

def lastOf (i : Nat) (log : List (Call β)) : Option (Call β) :=
  (log.filter (·.worker = i)).getLast?

variable (i : Nat) (ctx : CallContext) (log : List (Call β)) (c : Call β)

@[simp] theorem contextAfter_nil : contextAfter i ctx ([] : List (Call β)) = ctx := rfl

@[simp] theorem contextAfter_snoc : contextAfter i ctx (log ++ [c]) =
    if c.worker = i ∧ c.outcome.succeeded then c.left else contextAfter i ctx log := by
  simp [contextAfter, List.foldl_append]

@[simp] theorem successes_nil : successes ([] : List (Call β)) = 0 := rfl

@[simp] theorem successes_snoc :
    successes (log ++ [c]) = successes log + if c.outcome.succeeded then 1 else 0 := by
  simp [successes, List.countP_append]

@[simp] theorem lastOf_nil : lastOf i ([] : List (Call β)) = none := rfl

@[simp] theorem lastOf_snoc :
    lastOf i (log ++ [c]) = if c.worker = i then some c else lastOf i log := by
  unfold lastOf
  rw [List.filter_append]
  split <;> simp_all

theorem lastOf_of_split {pre post : List (Call β)} (hpost : ∀ c' ∈ post, c'.worker ≠ c.worker) :
    lastOf c.worker (pre ++ c :: post) = some c := by
  have hnil : post.filter (·.worker = c.worker) = [] :=
    List.filter_eq_nil_iff.2 (by simpa using hpost)
  unfold lastOf
  rw [List.filter_append, List.filter_cons_of_pos (by simp), hnil]
  simp

theorem mem_of_lastOf {c : Call β} (h : lastOf i log = some c) : c ∈ log :=
  (List.mem_filter.1 (List.mem_of_getLast? h)).1

theorem contextAfter_of_lastOf {c : Call β} (h : lastOf i log = some c)
    (hs : c.outcome.succeeded = true) : contextAfter i ctx log = c.left := by
  induction log using List.reverseRecOn with
  | nil => simp at h
  | append_singleton l x ih =>
    rw [lastOf_snoc] at h
    rw [contextAfter_snoc]
    by_cases hx : x.worker = i
    · rw [if_pos hx] at h
      cases h
      simp [hx, hs]
    · rw [if_neg hx] at h
      rw [if_neg (by simp [hx]), ih h]

end Log

theorem List.snoc_eq_append_cons {γ : Type} {l pre post : List γ} {x c : γ}
    (h : l ++ [x] = pre ++ c :: post) :
    (pre = l ∧ c = x ∧ post = []) ∨ ∃ post', post = post' ++ [x] ∧ l = pre ++ c :: post' := by
  rcases List.eq_nil_or_concat' post with rfl | ⟨post', y, rfl⟩
  · left
    have h' : l ++ [x] = (pre ++ [c]) := by simpa using h
    obtain ⟨rfl, hx⟩ := List.append_inj' h' rfl
    exact ⟨rfl, (List.singleton_inj.1 hx).symm, rfl⟩
  · right
    have h' : l ++ [x] = (pre ++ c :: post') ++ [y] := by simpa using h
    obtain ⟨rfl, hx⟩ := List.append_inj' h' rfl
    obtain rfl := (List.singleton_inj.1 hx)
    exact ⟨post', rfl, rfl⟩

namespace Run

/-! The fields a worker's updates leave alone. -/

section Fields

variable (r : Run α β) (i : Nat)

@[simp] theorem calls_setPhase (p : Phase α) : (r.setPhase i p).calls = r.calls := rfl

@[simp] theorem calls_setContext (ctx : CallContext) : (r.setContext i ctx).calls = r.calls := rfl

@[simp] theorem calls_abort (e : Error) : (r.abort e).calls = r.calls := rfl

@[simp] theorem calls_leave (p : Phase α) : (r.leave i p).calls = r.calls := by
  obtain ⟨lv, h⟩ := leave_eq r i p
  rw [h]
  rfl

@[simp] theorem aborted_setPhase (p : Phase α) : (r.setPhase i p).aborted = r.aborted := rfl

@[simp] theorem aborted_setContext (ctx : CallContext) :
    (r.setContext i ctx).aborted = r.aborted := rfl

@[simp] theorem aborted_abort (e : Error) : (r.abort e).aborted = true := rfl

@[simp] theorem aborted_leave (p : Phase α) : (r.leave i p).aborted = r.aborted := by
  obtain ⟨lv, h⟩ := leave_eq r i p
  rw [h]
  rfl

theorem gone_eq : r.gone i = (r.phases[i]?.map Phase.isGone).getD true := by
  unfold gone phases
  cases h : r.workers[i]? <;> simp [h]

theorem gone_of_phases {r' : Run α β} (h : r'.phases[i]? = r.phases[i]?) :
    r'.gone i = r.gone i := by
  rw [gone_eq, gone_eq, h]

theorem takeBatch_quiet (hin : r.endpoint.style.takesInput = false) :
    r.takeBatch i = r.setPhase i (.holding [] 0) := by
  simp [takeBatch, hin]

end Fields

section Phases

variable {r r' : Run α β} {i : Nat} {p : Phase α}

theorem gone_set_ne (hph : r'.phases = r.phases.set i p) {j : Nat} (hj : j ≠ i) :
    r'.gone j = r.gone j :=
  gone_of_phases r j (by rw [hph, List.getElem?_set_ne (Ne.symm hj)])

theorem gone_set_self (hph : r'.phases = r.phases.set i p) (hi : r.gone i = false) :
    r'.gone i = p.isGone := by
  rw [gone_eq] at hi ⊢
  have hlt : i < r.phases.length := by
    by_contra hge
    rw [List.getElem?_eq_none (Nat.le_of_not_lt hge)] at hi
    cases hi
  rw [hph, List.getElem?_set_self hlt]
  rfl

theorem gone_set_of_isGone (hph : r'.phases = r.phases.set i p) (hp : p.isGone = true) :
    r'.gone i = true := by
  rw [gone_eq, hph]
  by_cases hlt : i < r.phases.length
  · rw [List.getElem?_set_self hlt]
    simp [hp]
  · rw [List.getElem?_eq_none (by simpa using Nat.le_of_not_lt hlt)]
    rfl

theorem gone_set_mono (hph : r'.phases = r.phases.set i p) (hp : p.isGone = true) {j : Nat}
    (h : r.gone j = true) : r'.gone j = true := by
  by_cases hji : j = i
  · subst hji
    exact gone_set_of_isGone hph hp
  · rw [gone_set_ne hph hji]
    exact h

theorem gone_stopFrom (k : Nat) {j : Nat} (h : r.gone j = true) : (r.stopFrom k).gone j = true := by
  rw [gone_eq] at h ⊢
  rw [phases_stopFrom, List.getElem?_mapIdx]
  cases hj : r.phases[j]? with
  | none => rfl
  | some q =>
    rw [hj] at h
    by_cases hk : k ≤ j
    · simp [hk, Phase.isGone]
    · simpa [hk] using h

end Phases

theorem afterCall_loop {L : Listeners σ α β} {r r' : Run α β} {i : Nat} {batch : List α}
    {n : UInt32} {res : Except Error (List β × Bool) × CallContext} {s s' : σ}
    (hin : r.endpoint.style.takesInput = false)
    (h : (r.afterCall L i batch n res).run s = (.ok r', s')) :
    ∃ p, r'.phases = r.phases.set i p ∧ p.isGone = !(outcomeOf L batch n s res).goesOn ∧
      r'.calls = r.calls + (if (outcomeOf L batch n s res).succeeded then 1 else 0) ∧
      r'.aborted = (r.aborted || (outcomeOf L batch n s res).aborts) := by
  obtain ⟨out, ctx⟩ := res
  rcases out with err | ⟨outs, more⟩
  case' ok =>
    obtain ⟨x, hd, hr⟩ := afterCall_success h
    rcases hr with ⟨rfl, hr⟩ | ⟨t, rfl, -, hr⟩
    case' inl =>
      rw [show outcomeOf L batch n s (.ok (outs, more), ctx) = .success outs more by
        simp [outcomeOf, hd]]
      cases more <;> simp only [Bool.false_eq_true, ↓reduceIte] at hr
    case' inr =>
      rw [show outcomeOf L batch n s (.ok (outs, more), ctx) = .panicked outs t by
        simp [outcomeOf, hd]]
    all_goals subst hr
  case' error =>
    obtain ⟨hv, -⟩ := afterCall_failure h
    show ∃ p : Phase α, _ ∧
      p.isGone = !(Outcome.failure err ((L.verdict n err ctx batch).run s).1).goesOn ∧
      _ ∧ r'.aborted =
        (r.aborted || (Outcome.failure err ((L.verdict n err ctx batch).run s).1).aborts)
    generalize ((L.verdict n err ctx batch).run s).1 = v at hv ⊢
    have hin' : (r.setContext i ctx).endpoint.style.takesInput = false := hin
    rcases v with _ | ⟨⟨_ | _ | _ | _⟩ | t⟩ <;>
      simp only [afterVerdict, Except.ok.injEq, hin', Bool.false_eq_true, ↓reduceIte] at hv
    case' some.fail => obtain ⟨-, hv⟩ := afterPanic_ok hv
    all_goals try cases hv
  all_goals
    refine ⟨_, by
      simp only [phases_setPhase, phases_leave, phases_abort]
      exact congrArg (fun l : List (Phase α) => l.set i _) (phases_setContext _ i ctx), rfl, ?_, ?_⟩
  all_goals simp [outcomeOf, Outcome.succeeded, Outcome.aborts]

end Run

/-- A step of a bulk run of a style without input, with the calls it makes. -/
inductive Loop (L : Listeners σ α β) (svc : Service σ) :
    Run α β × σ → List (Call β) → Run α β × σ → Prop
  | call {r r' : Run α β} {s s₁ s' : σ} (i : Nat) (ctx : CallContext) (batch : List α)
      (n : UInt32) (res : Except Error (List β × Bool) × CallContext) :
      r.workers[i]? = some ⟨ctx, .holding batch n⟩ → r.aborted = false →
      ((r.endpoint.bulkCall svc batch).run.run ctx).run s = (res, s₁) →
      (r.afterCall L i batch n res).run s₁ = (.ok r', s') →
      Loop L svc (r, s) [⟨i, ctx, Run.outcomeOf L batch n s₁ res, res.2⟩] (r', s')
  | crash {r : Run α β} {s s' : σ} (i : Nat) (text : Option String) :
      Loop L svc (r, s) [] ((r.abort (panicError text)).leave i .stopped, s')
  | keep {r r' : Run α β} {s : σ} :
      r'.endpoint = r.endpoint → r'.contexts = r.contexts → r'.calls = r.calls →
      (r.aborted = true → r'.aborted = true) → (∀ j, r.gone j = true → r'.gone j = true) →
      (∀ j, r'.gone j = true → r.gone j = true ∨ r'.aborted = true) → Loop L svc (r, s) [] (r', s)

inductive Loops (L : Listeners σ α β) (svc : Service σ) :
    Run α β × σ → List (Call β) → Run α β × σ → Prop
  | refl (x : Run α β × σ) : Loops L svc x [] x
  | tail {x y z : Run α β × σ} {log es : List (Call β)} :
      Loops L svc x log y → Loop L svc y es z → Loops L svc x (log ++ es) z

section Loops

variable {L : Listeners σ α β} {svc : Service σ} {x y z : Run α β × σ}
  {log es : List (Call β)}

theorem Loops.single (h : Loop L svc x es y) : Loops L svc x es y := by
  simpa using Loops.tail (Loops.refl x) h

theorem Loops.trans (h₁ : Loops L svc x log y) (h₂ : Loops L svc y es z) :
    Loops L svc x (log ++ es) z := by
  induction h₂ with
  | refl => simpa using h₁
  | tail _ hm ih => simpa using ih.tail hm

theorem Loop.endpoint (h : Loop L svc x es y) : y.1.endpoint = x.1.endpoint := by
  cases h with
  | call i ctx batch n res _ _ _ h => exact (Run.afterCall_turn h).choose_spec.2.2.1
  | crash => simp
  | keep he => exact he

theorem Loop.setPhase {r : Run α β} {s : σ} {i : Nat} {p : Phase α} (hg : r.gone i = false)
    (hp : p.isGone = false) : Loop L svc (r, s) [] (r.setPhase i p, s) := by
  have hph := Run.phases_setPhase r i p
  have hsame : ∀ j, (r.setPhase i p).gone j = r.gone j := fun j => by
    by_cases hji : j = i
    · subst hji
      rw [Run.gone_set_self hph hg, hp, hg]
    · exact Run.gone_set_ne hph hji
  exact .keep rfl (by simp) rfl id (fun j h => (hsame j).trans h)
    (fun j h => .inl ((hsame j).symm.trans h))

theorem Loop.leave {r : Run α β} {s : σ} {i : Nat} {p : Phase α} (ha : r.aborted = true)
    (hp : p.isGone = true) : Loop L svc (r, s) [] (r.leave i p, s) :=
  .keep (by simp) (by simp) (by simp) (fun _ => by simpa using ha)
    (fun _ => Run.gone_set_mono (Run.phases_leave r i p) hp) (fun _ _ => .inr (by simpa using ha))

theorem Loop.close {r : Run α β} {s : σ} : Loop L svc (r, s) [] ((r.close L).2, s) := by
  rcases Run.close_cases L r with ⟨st, sd, lv, hc⟩ | ⟨e, st, lv, k, hc⟩ <;> rw [hc]
  · exact .keep rfl rfl rfl id (fun _ h => h) (fun _ h => .inl h)
  · exact .keep rfl (by rw [Run.contexts_abort, Run.contexts_stopFrom]; rfl) rfl (fun _ => rfl)
      (fun _ h => Run.gone_stopFrom k h)
      (fun _ _ => .inr rfl)

theorem Loops.endpoint (h : Loops L svc x log y) : y.1.endpoint = x.1.endpoint := by
  induction h with
  | refl => rfl
  | tail _ hs ih => exact hs.endpoint.trans ih

theorem loops_chained : Run.Chained L svc fun x y =>
    x.1.endpoint.style.takesInput = false → ∃ log, Loops L svc x log y where
  refl x _ := ⟨[], .refl x⟩
  trans hxy hyz hin := by
    obtain ⟨l₁, h₁⟩ := hxy hin
    obtain ⟨l₂, h₂⟩ := hyz (h₁.endpoint ▸ hin)
    exact ⟨_, h₁.trans h₂⟩
  call i ctx batch n res hw ha hcall h _ := ⟨_, .single (.call i ctx batch n res hw ha hcall h)⟩
  take r s i hg hin := by
    rw [Run.takeBatch_quiet r i hin]
    exact ⟨_, .single (.setPhase hg rfl)⟩
  quit r s i ha _ := ⟨_, .single (.leave ha rfl)⟩

end Loops

/-- What the calls of a log leave of a run whose workers started from the contexts `cs`. -/
structure Kept (cs : List CallContext) (r : Run α β) (log : List (Call β)) : Prop where
  contexts : ∀ i, r.contexts[i]? = cs[i]?.map (Log.contextAfter i · log)
  calls : r.calls = Log.successes log
  ends : ∀ i c, Log.lastOf i log = some c → c.outcome.goesOn = false → r.gone i = true
  gone : ∀ i, i < cs.length → r.gone i = true →
    r.aborted = true ∨ ∃ c, Log.lastOf i log = some c ∧ c.outcome.goesOn = false
  aborted : ∀ c ∈ log, c.outcome.aborts = true → r.aborted = true

structure Log.Lawful (e : Endpoint α β) (cs : List CallContext) (log : List (Call β)) : Prop where
  threads : ∀ pre c post, log = pre ++ c :: post →
    cs[c.worker]?.map (Log.contextAfter c.worker · pre) = some c.sent
  fits : ∀ c ∈ log, c.Fits e
  last : ∀ pre c post, log = pre ++ c :: post → c.outcome.goesOn = false →
    ∀ c' ∈ post, c'.worker ≠ c.worker
  final : ∀ pre c post, log = pre ++ c :: post → c.outcome.aborts = true → post = []

theorem Kept.of_gone {cs : List CallContext} {r r' : Run α β} {log : List (Call β)}
    (hk : Kept cs r log) (hctx : r'.contexts = r.contexts) (hcalls : r'.calls = r.calls)
    (hab : r.aborted = true → r'.aborted = true) (hkeep : ∀ j, r.gone j = true → r'.gone j = true)
    (hout : ∀ j, r'.gone j = true → r.gone j = true ∨ r'.aborted = true) : Kept cs r' log where
  contexts j := hctx ▸ hk.contexts j
  calls := hcalls.trans hk.calls
  ends j c hlast hgo := hkeep j (hk.ends j c hlast hgo)
  gone j hj hg := by
    rcases hout j hg with hg | ha
    · exact (hk.gone j hj hg).imp_left hab
    · exact .inl ha
  aborted c hc hac := hab (hk.aborted c hc hac)

theorem Call.Fits.left_of_failed {e : Endpoint α β} {c : Call β} (hc : c.Fits e)
    (h : c.outcome.succeeded = false) : c.left = c.sent := by
  unfold Call.Fits at hc
  cases ho : c.outcome with
  | success outs more => rw [ho] at h; cases h
  | panicked outs t => rw [ho] at h; cases h
  | failure err v => rw [ho] at hc; exact hc

section Step

variable {L : Listeners σ α β} {svc : Service σ} {e : Endpoint α β} {cs : List CallContext}
  {x y : Run α β × σ} {log es : List (Call β)}
  (hf : e.decl.endpointState.isSome → e.decl.returns.isSome) (hin : e.style.takesInput = false)
include hf hin

theorem bulkCall_fits {batch : List α} {ctx : CallContext} {s s₁ : σ}
    {res : Except Error (List β × Bool) × CallContext}
    (hcall : ((e.bulkCall svc batch).run.run ctx).run s = (res, s₁)) (L : Listeners σ α β)
    (i : Nat) (n : UInt32) (s' : σ) :
    (⟨i, ctx, Run.outcomeOf L batch n s' res, res.2⟩ : Call β).Fits e := by
  obtain ⟨out, ctx'⟩ := res
  have hl := e.bulkCall_law svc batch hf hin ctx s out ctx' s₁ hcall
  rcases out with err | ⟨outs, more⟩
  · exact hl.1 err rfl
  · obtain ⟨req, shape, resp, hreq, -, hleaves, hmore, hexec⟩ := hl.2 _ rfl
    cases hx : ((Run.dispatch L outs).run s').1 with
    | returned =>
      simp only [Call.Fits, Run.outcomeOf, hx]
      exact ⟨⟨req, resp, hreq, hleaves, hmore⟩, hexec⟩
    | panicked t =>
      simp only [Call.Fits, Run.outcomeOf, hx]
      exact ⟨⟨req, resp, hreq, hleaves⟩, hexec⟩

theorem Kept.call {r r' : Run α β} {s s₁ s' : σ} {i : Nat} {ctx : CallContext} {batch : List α}
    {n : UInt32} {res : Except Error (List β × Bool) × CallContext} (he : r.endpoint = e)
    (hk : Kept cs r log) (hw : r.workers[i]? = some ⟨ctx, .holding batch n⟩)
    (ha : r.aborted = false)
    (hcall : ((r.endpoint.bulkCall svc batch).run.run ctx).run s = (res, s₁))
    (h : (r.afterCall L i batch n res).run s₁ = (.ok r', s')) :
    Kept cs r' (log ++ [⟨i, ctx, Run.outcomeOf L batch n s₁ res, res.2⟩]) := by
  obtain ⟨p, hph, hgone, hcalls, hab⟩ := Run.afterCall_loop (he ▸ hin) h
  obtain ⟨-, -, hctx, -⟩ := Run.afterCall_turn h
  have hfit := bulkCall_fits hf hin (he ▸ hcall) L i n s₁
  have hgi : r.gone i = false := by simp [Run.gone, hw, Phase.isGone]
  have hi : r.contexts[i]? = some ctx := by simp [Run.contexts, hw]
  refine ⟨fun j => ?_, by simp [hcalls, hk.calls], fun j c hlast hgo => ?_,
    fun j hj hg => ?_, fun c hc hac => ?_⟩
  · simp only [hctx, Log.contextAfter_snoc]
    by_cases hji : j = i
    · subst hji
      obtain ⟨ctx₀, hc₀, hafter⟩ := Option.map_eq_some_iff.1 ((hk.contexts j).symm.trans hi)
      rw [List.getElem?_set_self (List.getElem?_eq_some_iff.1 hi).1, hc₀]
      cases hs : (Run.outcomeOf L batch n _ res).succeeded
      · have hl := hfit.left_of_failed hs
        simp only at hl
        simp [hafter, hl]
      · simp
    · rw [List.getElem?_set_ne (Ne.symm hji), hk.contexts j]
      simp [Ne.symm hji]
  · rw [Log.lastOf_snoc] at hlast
    by_cases hji : i = j
    · subst hji
      simp at hlast
      subst hlast
      rw [Run.gone_set_self hph hgi, hgone]
      simpa using hgo
    · rw [if_neg hji] at hlast
      rw [Run.gone_set_ne hph (Ne.symm hji)]
      exact hk.ends j c hlast hgo
  · by_cases hji : j = i
    · subst hji
      rw [Run.gone_set_self hph hgi, hgone] at hg
      exact .inr ⟨⟨j, ctx, Run.outcomeOf L batch n s₁ res, res.2⟩, by simp, by simpa using hg⟩
    · rw [Run.gone_set_ne hph hji] at hg
      rcases hk.gone j hj hg with ha' | ⟨c, hlast, hgo⟩
      · rw [ha] at ha'
        cases ha'
      · exact .inr ⟨c, by simp [Log.lastOf_snoc, Ne.symm hji, hlast], hgo⟩
  · rw [hab]
    rcases List.mem_append.1 hc with hm | hm
    · rw [hk.aborted c hm hac]
      rfl
    · rw [List.mem_singleton.1 hm] at hac
      rw [hac, Bool.or_true]

theorem Kept.loop (he : x.1.endpoint = e) (hk : Kept cs x.1 log) (h : Loop L svc x es y) :
    Kept cs y.1 (log ++ es) := by
  cases h with
  | call i ctx batch n res hw ha hcall h => exact hk.call hf hin he hw ha hcall h
  | @crash r s s' i t =>
    dsimp only at hk ⊢
    rw [List.append_nil]
    exact hk.of_gone (by simp) (by simp) (fun _ => by simp)
      (fun _ h => Run.gone_set_mono (Run.phases_leave (r.abort (panicError t)) i _) rfl h)
      fun _ _ => .inr (by simp)
  | @keep r r' s _ hc hcalls hab hkeep hout =>
    rw [List.append_nil]
    exact hk.of_gone hc hcalls hab hkeep hout

theorem Log.Lawful.loop (he : x.1.endpoint = e) (hk : Kept cs x.1 log) (hl : Log.Lawful e cs log)
    (h : Loop L svc x es y) : Log.Lawful e cs (log ++ es) := by
  cases h with
  | @call r r' s s₁ s' i ctx batch n res hw ha hcall h =>
    dsimp only at he hk
    have hgi : r.gone i = false := by simp [Run.gone, hw, Phase.isGone]
    have hi : r.contexts[i]? = some ctx := by simp [Run.contexts, hw]
    refine ⟨fun pre c post hsplit => ?_, fun c hc => ?_, fun pre c post hsplit hgo => ?_,
      fun pre c post hsplit hab => ?_⟩
    · rcases List.snoc_eq_append_cons hsplit with ⟨rfl, rfl, rfl⟩ | ⟨post', rfl, hlog⟩
      · exact (hk.contexts i).symm.trans hi
      · exact hl.threads pre c post' hlog
    · rcases List.mem_append.1 hc with hm | hm
      · exact hl.fits c hm
      · rw [List.mem_singleton.1 hm]
        exact bulkCall_fits hf hin (he ▸ hcall) L i n s₁
    · rcases List.snoc_eq_append_cons hsplit with ⟨-, -, rfl⟩ | ⟨post', rfl, hlog⟩
      · exact fun _ hm => absurd hm List.not_mem_nil
      intro c' hc'
      rcases List.mem_append.1 hc' with hm | hm
      · exact hl.last pre c post' hlog hgo c' hm
      · rw [List.mem_singleton.1 hm]
        intro hic
        have hlast : Log.lastOf c.worker log = some c := by
          rw [hlog]
          exact Log.lastOf_of_split c (hl.last pre c post' hlog hgo)
        have hgone := hk.ends _ _ hlast hgo
        rw [← hic, hgi] at hgone
        cases hgone
    · rcases List.snoc_eq_append_cons hsplit with ⟨-, -, rfl⟩ | ⟨post', rfl, hlog⟩
      · rfl
      · have hab' := hk.aborted c (by rw [hlog]; simp) hab
        rw [ha] at hab'
        cases hab'
  | crash | keep => simpa using hl

theorem Loops.kept (he : x.1.endpoint = e) (hk : Kept cs x.1 log) (hl : Log.Lawful e cs log)
    (h : Loops L svc x es y) : Kept cs y.1 (log ++ es) ∧ Log.Lawful e cs (log ++ es) := by
  induction h with
  | refl => simpa using ⟨hk, hl⟩
  | tail hxy hstep ih =>
    obtain ⟨hk', hl'⟩ := ih
    have he' := hxy.endpoint.trans he
    rw [← List.append_assoc]
    exact ⟨hk'.loop hf hin he' hstep, hl'.loop hf hin he' hk' hstep⟩

end Step

def Placement.contexts : Placement → List CallContext
  | .inline ctx => [ctx]
  | .pool ctxs => ctxs

namespace Run

variable {L : Listeners σ α β} {svc : Service σ} {budget : Nat}

theorem new_workers {e : Endpoint α β} {p : Placement} {r : Run α β} (h : Run.new e p = .ok r) :
    r.endpoint = e ∧ r.workers = p.contexts.map (fun c => { context := c }) ∧ r.calls = 0 ∧
      r.failure = none ∧ r.started = false ∧
      (r.pooled = false → r.live = 1 ∧ p.contexts.length = 1) := by
  unfold Run.new at h
  cases hc : e.style.check e.decl with
  | error err =>
    rw [hc] at h
    cases h
  | ok u =>
    simp only [hc, bind, Except.bind, pure, Except.pure] at h
    cases p with
    | inline ctx =>
      cases h
      simp [Placement.contexts]
    | pool cs =>
      cases cs with
      | nil => cases h
      | cons c cs =>
        cases h
        simp [Placement.contexts]

theorem gone_of_allGone {r : Run α β} (h : r.allGone = true) (i : Nat) : r.gone i = true := by
  unfold gone
  cases hw : r.workers[i]? with
  | none => rfl
  | some w => exact List.all_eq_true.1 h w (List.mem_of_getElem? hw)

theorem finish_contexts {r r' : Run α β} {rep : Report} (h : r.finish = (.ok rep, r')) :
    rep.contexts = r.contexts := by
  unfold finish at h
  split at h
  · cases h
  · simp only [Prod.mk.injEq, Except.ok.injEq] at h
    obtain ⟨rfl, -⟩ := h
    rfl

theorem accept_quiet {r r' : Run α β} {s s' : σ} {item : α} {res : Except Error Unit}
    (hin : r.endpoint.style.takesInput = false)
    (h : (r.accept L svc budget item).run s = (.ok (res, r'), s')) : r' = r ∧ s' = s := by
  have hchain := accept_go_chain (fun x y => x.1.endpoint.style.takesInput = false → y = x)
    (fun hxy hyz hin => by
      obtain rfl := hxy hin
      exact hyz hin)
    (fun h _ hin => by
      rcases offer_starts h with ⟨-, rfl, rfl, -⟩ | ⟨hin', -⟩ | ⟨hin', -⟩
      · rfl
      all_goals rw [hin] at hin'; cases hin')
    (fun h₁ _ hin => by
      rcases offer_starts h₁ with ⟨-, -, -, e, he⟩ | ⟨hin', -⟩ | ⟨hin', -⟩
      · cases he
      all_goals rw [hin] at hin'; cases hin')
    budget h hin
  exact ⟨congrArg Prod.fst hchain, congrArg Prod.snd hchain⟩

theorem await_loops {r r' : Run α β} {s s' : σ} {rep : Report}
    (hin : r.endpoint.style.takesInput = false)
    (h0 : r.pooled = false → 0 < r.live ∧ r.gone 0 = false)
    (h : (r.await L svc budget).run s = (.ok (.ok rep, r'), s')) :
    ∃ log r₂, Loops L svc (r, s) log (r₂, s') ∧ r₂.finish = (.ok rep, r') ∧
      (r.pooled = true → r₂.allGone = true) ∧ (r.pooled = false → r₂.gone 0 = true) := by
  rcases await_cases h with ⟨e, -, he, -⟩ | ⟨r₁, hc, hd⟩
  · cases he
  have hclose : Loop L svc (r, s) [] (r₁, s) := by
    have h₁ : (r.close L).2 = r₁ := by rw [hc]
    exact h₁ ▸ Loop.close
  obtain ⟨lv, hr₁⟩ := close_ok_eq hc
  have hp : r₁.pooled = r.pooled := by rw [hr₁]
  have h0' : r.pooled = false → 0 < r₁.live ∧ r₁.gone 0 = false := by
    intro hpf
    obtain ⟨st, hc'⟩ := close_inline (L := L) hpf
    rw [hc] at hc'
    cases hc'
    exact h0 hpf
  obtain ⟨r₂, hl, hfin, hall, hone⟩ := drain_reaches loops_chained
    (fun hpf _ _ => ⟨_, .single (.setPhase (h0' (hp ▸ hpf)).2 rfl)⟩) hd
  obtain ⟨log, hl⟩ := hl (by rw [hclose.endpoint]; exact hin)
  exact ⟨_, r₂, (Loops.single hclose).trans hl, hfin, fun hpt => hall (hp.trans hpt),
    fun hpf => hone (hp.trans hpf) (h0' hpf).1⟩

end Run

section Life

variable {L : Listeners σ α β} {svc : Service σ} {budget : Nat} {x y : Run α β × σ}

theorem Life.loops (h : Life L svc budget x y) (hin : x.1.endpoint.style.takesInput = false) :
    ∃ log, Loops L svc x log y := by
  cases h with
  | move h =>
    cases h with
    | offer item res h =>
      rcases Run.offer_starts h with ⟨-, rfl, rfl, -⟩ | ⟨hin', -⟩ | ⟨hin', -⟩
      · exact ⟨_, .refl _⟩
      all_goals rw [hin] at hin'; cases hin'
    | take i ctx _ hw => exact loops_chained.take _ _ i (by simp [Run.gone, hw, Phase.isGone]) hin
    | call i ctx batch n res _ hw ha hcall h =>
      exact ⟨_, .single (.call i ctx batch n res hw ha hcall h)⟩
    | crash i ctx batch n t => exact ⟨_, .single (.crash i t)⟩
    | abandon i ctx batch n _ hw ha => exact ⟨_, .single (.leave ha rfl)⟩
    | close => exact ⟨_, .single .close⟩
  | accept item res h =>
    obtain ⟨rfl, rfl⟩ := Run.accept_quiet hin h
    exact ⟨_, .refl _⟩

theorem Life.inline_still (h : Life L svc budget x y) (hin : x.1.endpoint.style.takesInput = false)
    (hp : x.1.pooled = false) (hs : x.1.started = false) :
    ∃ st cl, y.1 = { x.1 with stage := st, closed := cl } := by
  cases h with
  | move h =>
    cases h with
    | offer item res h =>
      rcases Run.offer_starts h with ⟨-, rfl, rfl, -⟩ | ⟨hin', -⟩ | ⟨hin', -⟩
      · exact ⟨_, _, rfl⟩
      all_goals rw [hin] at hin'; cases hin'
    | take _ _ hst _ =>
      rw [hs] at hst
      cases hst
    | call _ _ _ _ _ hst =>
      rw [hs] at hst
      cases hst
    | crash _ _ _ _ _ hpt =>
      rw [hp] at hpt
      cases hpt
    | abandon _ _ _ _ hst =>
      rw [hs] at hst
      cases hst
    | @close r s =>
      obtain ⟨st, hc⟩ := Run.close_inline (L := L) hp
      exact ⟨st, true, by rw [hc]⟩
  | accept item res h =>
    obtain ⟨rfl, rfl⟩ := Run.accept_quiet hin h
    exact ⟨_, _, rfl⟩

theorem reach_loops (hin : x.1.endpoint.style.takesInput = false)
    (h : Relation.ReflTransGen (Life L svc budget) x y) : ∃ log, Loops L svc x log y := by
  induction h with
  | refl => exact ⟨_, .refl _⟩
  | tail _ hs ih =>
    obtain ⟨log, hl⟩ := ih
    obtain ⟨es, he⟩ := hs.loops (by rw [hl.endpoint]; exact hin)
    exact ⟨_, hl.trans he⟩

theorem reach_inline_still (hin : x.1.endpoint.style.takesInput = false)
    (hp : x.1.pooled = false) (hs : x.1.started = false)
    (h : Relation.ReflTransGen (Life L svc budget) x y) :
    ∃ st cl, y.1 = { x.1 with stage := st, closed := cl } := by
  induction h with
  | refl => exact ⟨_, _, rfl⟩
  | tail _ hl ih =>
    obtain ⟨st, cl, hy⟩ := ih
    obtain ⟨st', cl', hz⟩ := hl.inline_still (by rw [hy]; exact hin) (by rw [hy]; exact hp)
      (by rw [hy]; exact hs)
    exact ⟨st', cl', by rw [hz, hy]⟩

end Life

theorem Kept.new {e : Endpoint α β} {p : Placement} {r : Run α β} (h : Run.new e p = .ok r) :
    Kept p.contexts r [] := by
  obtain ⟨-, hw, hc, -⟩ := Run.new_workers h
  refine ⟨fun i => ?_, by simp [hc], fun i c hl _ => by simp at hl, fun i hi hg => ?_,
    fun c hc _ => by simp at hc⟩
  · simp [Run.contexts, hw, Function.comp_def]
  · rw [Run.gone, hw, List.getElem?_map, List.getElem?_eq_getElem hi] at hg
    cases hg

theorem Log.Lawful.nil (e : Endpoint α β) (cs : List CallContext) :
    Log.Lawful e cs ([] : List (Call β)) where
  threads _ _ _ h := by simp at h
  fits _ h := absurd h List.not_mem_nil
  last _ _ _ h := by simp at h
  final _ _ _ h := by simp at h

section Reports

variable {L : Listeners σ α β} {svc : Service σ} {budget : Nat} {e : Endpoint α β} {p : Placement}
  {r₀ : Run α β} (hf : e.decl.endpointState.isSome → e.decl.returns.isSome)
  (hin : e.style.takesInput = false) (hnew : Run.new e p = .ok r₀)
include hf hin hnew

theorem reach_kept {s₀ s : σ} {r : Run α β}
    (h : Relation.ReflTransGen (Life L svc budget) (r₀, s₀) (r, s)) :
    ∃ log, Loops L svc (r₀, s₀) log (r, s) ∧ Kept p.contexts r log ∧
      Log.Lawful e p.contexts log := by
  obtain ⟨he, -⟩ := Run.new_workers hnew
  obtain ⟨log, hl⟩ := reach_loops (by rw [he]; exact hin) h
  obtain ⟨hk, hlaw⟩ := hl.kept hf hin he (Kept.new hnew) (Log.Lawful.nil e _)
  exact ⟨log, hl, by simpa using hk, by simpa using hlaw⟩

theorem await_kept {s₀ s s' : σ} {r r' : Run α β} {rep : Report}
    (hreach : Relation.ReflTransGen (Life L svc budget) (r₀, s₀) (r, s))
    (h : (r.await L svc budget).run s = (.ok (.ok rep, r'), s')) :
    ∃ log r₁, Loops L svc (r₀, s₀) log (r₁, s') ∧ r₁.finish = (.ok rep, r') ∧
      Kept p.contexts r₁ log ∧ Log.Lawful e p.contexts log ∧
      ∀ i < p.contexts.length, r₁.gone i = true := by
  obtain ⟨he, hw, -, -, hst, hinl⟩ := Run.new_workers hnew
  have hin₀ : r₀.endpoint.style.takesInput = false := by rw [he]; exact hin
  obtain ⟨log, hl⟩ := reach_loops hin₀ hreach
  have hpool : r.pooled = r₀.pooled := ((Run.new_bounded hnew).1.reach hreach).2.pooled
  have h0 : r.pooled = false → 0 < r.live ∧ r.gone 0 = false := by
    intro hp
    have hp₀ : r₀.pooled = false := hpool ▸ hp
    obtain ⟨st, cl, hr⟩ := reach_inline_still hin₀ hp₀ hst hreach
    obtain ⟨hlive, hlen⟩ := hinl hp₀
    have hr' : r = { r₀ with stage := st, closed := cl } := hr
    subst hr'
    refine ⟨by simp [hlive], ?_⟩
    show r₀.gone 0 = false
    rw [Run.gone, hw, List.getElem?_map, List.getElem?_eq_getElem (by omega)]
    rfl
  obtain ⟨log', r₁, hl', hfin, hall, hone⟩ := Run.await_loops (by rw [hl.endpoint]; exact hin₀) h0 h
  obtain ⟨hk, hlaw⟩ := (hl.trans hl').kept hf hin he (Kept.new hnew) (Log.Lawful.nil e _)
  refine ⟨_, r₁, hl.trans hl', hfin, by simpa using hk, by simpa using hlaw, fun i hi => ?_⟩
  cases hp : r.pooled
  · obtain ⟨-, hlen⟩ := hinl (hpool ▸ hp)
    obtain rfl : i = 0 := by omega
    exact hone hp
  · exact Run.gone_of_allGone (hall hp) i

end Reports

variable {L : Listeners σ α β} {svc : Service σ} {budget : Nat}

/-- Workers without input call with the state their last success left, and report it. -/
theorem worker_loops_thread_state {j : Json} {hi : Option (Handle α)} {ho : Option (Handle β)}
    {e : Endpoint α β} (hcaller : Caller.new j hi ho = .ok e.caller)
    (hstyle : e.style = .output ∨ e.style = .exec) {p : Placement} {r₀ : Run α β}
    (hnew : Run.new e p = .ok r₀) (L : Listeners σ α β) (svc : Service σ) (budget : Nat) :
    (∀ batch, Caller.Law e.caller svc none (e.bulkCall svc batch) fun resp res =>
        res.2 = e.goesOn resp res.1 ∧ (e.style = .exec → res.1 = [])) ∧
    (∀ c : Call β, c.Fits e → ∀ outs more, c.outcome = .success outs more →
      (e.style = .output →
        (more = false ↔ outs = [] ∨ (e.decl.endpointState.isSome ∧ c.left.endpointState = none))) ∧
      (e.style = .exec → more = false → c.left.endpointState = none)) ∧
    (∀ s₀ r s, Relation.ReflTransGen (Life L svc budget) (r₀, s₀) (r, s) →
      ∃ log, Loops L svc (r₀, s₀) log (r, s) ∧ Log.Lawful e p.contexts log ∧
        (∀ i, r.contexts[i]? = p.contexts[i]?.map (Log.contextAfter i · log)) ∧
        r.calls = Log.successes log) ∧
    (∀ s₀ r s rep r' s', Relation.ReflTransGen (Life L svc budget) (r₀, s₀) (r, s) →
      (r.await L svc budget).run s = (.ok (.ok rep, r'), s') →
      ∃ log r₁, Loops L svc (r₀, s₀) log (r₁, s') ∧ r₁.finish = (.ok rep, r') ∧
        Log.Lawful e p.contexts log ∧
        (∀ i, rep.contexts[i]? = p.contexts[i]?.map (Log.contextAfter i · log)) ∧
        rep.calls = Log.successes log ∧
        ∀ i < p.contexts.length, ∃ c, Log.lastOf i log = some c ∧ c.outcome.goesOn = false ∧
          c.outcome.aborts = false ∧ (c.outcome.succeeded = true →
            rep.contexts[i]? = some c.left ∧ (e.style = .exec → c.left.endpointState = none))) := by
  have hf : e.decl.endpointState.isSome → e.decl.returns.isSome :=
    Declaration.parse_state_returns (Caller.new_decl hcaller)
  have hin : e.style.takesInput = false := by
    rcases hstyle with h | h <;> rw [h] <;> rfl
  refine ⟨fun batch => e.bulkCall_law svc batch hf hin,
    fun c hc outs more ho => ⟨fun hs => hc.output_stops hs ho, fun hs hm => ?_⟩,
    fun s₀ r s hreach => ?_, fun s₀ r s rep r' s' hreach h => ?_⟩
  · subst hm
    exact hc.exec_stops hf hs ho
  · obtain ⟨log, hl, hk, hlaw⟩ := reach_kept hf hin hnew hreach
    exact ⟨log, hl, hlaw, hk.contexts, hk.calls⟩
  · obtain ⟨log, r₁, hl, hfin, hk, hlaw, hgone⟩ := await_kept hf hin hnew hreach h
    obtain ⟨hab, hcalls, -⟩ := Run.finish_ok hfin
    have hctx := Run.finish_contexts hfin
    refine ⟨log, r₁, hl, hfin, hlaw, fun i => by rw [hctx]; exact hk.contexts i,
      by rw [hcalls]; exact hk.calls, fun i hi => ?_⟩
    rcases hk.gone i hi (hgone i hi) with ha | ⟨c, hlast, hgo⟩
    · rw [hab] at ha
      cases ha
    have hmem := Log.mem_of_lastOf i log hlast
    have hna : c.outcome.aborts = false := by
      cases hc : c.outcome.aborts
      · rfl
      · have ha := hk.aborted c hmem hc
        rw [hab] at ha
        cases ha
    refine ⟨c, hlast, hgo, hna, fun hs => ?_⟩
    have hrep : rep.contexts[i]? = some c.left := by
      rw [hctx, hk.contexts i, List.getElem?_eq_getElem hi, Option.map_some,
        Log.contextAfter_of_lastOf i _ log hlast hs]
    refine ⟨hrep, fun hexec => ?_⟩
    cases ho : c.outcome with
    | success outs more =>
      have hmore : more = false := by simpa [ho, Outcome.goesOn] using hgo
      subst hmore
      exact (hlaw.fits c hmem).exec_stops hf hexec ho
    | panicked outs t =>
      rw [ho] at hna
      cases hna
    | failure err v =>
      rw [ho] at hs
      cases hs

theorem worker_loops_exec_pool :
    ∃ (e : Endpoint Unit Unit) (r₀ r : Run Unit Unit) (s : List ScriptReply),
      Endpoint.exec (.obj [("endpoint", .str "/e.sjs"),
        ("params", .arr [.obj [("datatype", .str "binaryDocument"), ("multiple", .bool false),
          ("name", .str "endpointState"), ("nullable", .bool true)]]),
        ("return", .obj [("datatype", .str "binaryDocument"), ("multiple", .bool false),
          ("nullable", .bool true)])]) {} = .ok e ∧ Run.new e (.pool [{}]) = .ok r₀ ∧
      Relation.ReflTransGen (Life Listeners.retrying Service.scripted 4)
        (r₀, [.single (some ⟨none, [1]⟩), .failure (.transport "down"), .single none]) (r, s) ∧
      (∃ log, Loops Listeners.retrying Service.scripted
          (r₀, [.single (some ⟨none, [1]⟩), .failure (.transport "down"), .single none])
          log (r, s) ∧
        Log.contextAfter 0 {} log = { endpointState := some [1] } ∧ Log.successes log = 1) ∧
      ∃ (rep : Report) (r' : Run Unit Unit) (s' : List ScriptReply),
        (r.await Listeners.retrying Service.scripted 4).run s =
          (.ok (.ok rep, r'), s') ∧
        rep.contexts = [{}] ∧ rep.calls = 2 ∧
        ∃ log r₁, Loops Listeners.retrying Service.scripted
            (r₀, [.single (some ⟨none, [1]⟩), .failure (.transport "down"), .single none])
            log (r₁, s') ∧ Log.successes log = 2 ∧
          ∃ c, Log.lastOf 0 log = some c ∧ c.outcome.goesOn = false ∧
            c.outcome.aborts = false := by
  obtain ⟨e, r₀, r, s, he, hnew, hreach, hctx, hcalls, hrep⟩ :
      ∃ (e : Endpoint Unit Unit) (r₀ r : Run Unit Unit) (s : List ScriptReply),
      Endpoint.exec (.obj [("endpoint", .str "/e.sjs"),
        ("params", .arr [.obj [("datatype", .str "binaryDocument"), ("multiple", .bool false),
          ("name", .str "endpointState"), ("nullable", .bool true)]]),
        ("return", .obj [("datatype", .str "binaryDocument"), ("multiple", .bool false),
          ("nullable", .bool true)])]) {} = .ok e ∧ Run.new e (.pool [{}]) = .ok r₀ ∧
      Relation.ReflTransGen (Life Listeners.retrying Service.scripted 4)
        (r₀, [.single (some ⟨none, [1]⟩), .failure (.transport "down"), .single none]) (r, s) ∧
      r.contexts = [{ endpointState := some [1] }] ∧ r.calls = 1 ∧
      (((r.await Listeners.retrying Service.scripted 4).run s).1.toOption.bind
          (·.1.toOption)).map
        (fun rep => decide (rep.contexts = [{}]) && rep.calls == 2) = some true :=
    ⟨_, _, _, _, rfl, rfl,
      .tail (.tail (.tail (.tail (.single
        (Life.move Move.close))
        (Life.move (Move.take 0 {} rfl rfl)))
        (Life.move (Move.call 0 {} [] 0 _ rfl rfl rfl rfl rfl)))
        (Life.move (Move.take 0 { endpointState := some [1] } rfl rfl)))
        (Life.move (Move.call 0 { endpointState := some [1] } [] 0 _ rfl rfl rfl rfl rfl)),
      by decide +kernel, by decide +kernel, by decide +kernel⟩
  obtain ⟨rep, r', s', hawait, hsums⟩ := Run.await_ok_of_check hrep
  simp only [Bool.and_eq_true, decide_eq_true_eq, beq_iff_eq] at hsums
  obtain ⟨hrc, hrn⟩ := hsums
  obtain ⟨hcaller, hexec⟩ := Endpoint.facade_ok he
  have h := worker_loops_thread_state hcaller (.inr hexec) hnew
    Listeners.retrying Service.scripted 4
  obtain ⟨log, hl, -, hthread, hcount⟩ := h.2.2.1 _ r s hreach
  have h0 := hthread 0
  rw [hctx] at h0
  obtain ⟨log', r₁, hl', -, -, -, hcount', hlast⟩ := h.2.2.2 _ r s rep r' s' hreach hawait
  obtain ⟨c, hc, hgo, hab, -⟩ := hlast 0 (by decide)
  exact ⟨e, r₀, r, s, he, hnew, hreach, ⟨log, hl, (Option.some.inj h0).symm, hcount ▸ hcalls⟩,
    rep, r', s', hawait, hrc, hrn, log', r₁, hl', hcount' ▸ hrn, c, hc, hgo, hab⟩

end Bulk

end EndpointCall
