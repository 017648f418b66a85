import EndpointCall.Proofs.BulkLoops
/-! Spreading contexts over the workers of a pool. -/
namespace EndpointCall.Bulk

variable {α β σ γ : Type}

def Shared (f : CallContext → Option γ) (cs : List CallContext) (x : γ) : Prop :=
  ∃ i j : Nat, i ≠ j ∧ cs[i]?.bind f = some x ∧ cs[j]?.bind f = some x

theorem not_shared_replicate {f : CallContext → Option γ} {t : CallContext} (ht : f t = none)
    (n : Nat) (x : γ) : ¬ Shared f (List.replicate n t) x := by
  rintro ⟨i, j, -, hi, -⟩
  rw [List.getElem?_replicate] at hi
  split at hi <;> simp_all

section Spread

variable {cs out : List CallContext} {n : Nat} {st : CallStyle}

theorem poolContexts_eq (h : poolContexts cs n st = .ok out) :
    0 < n ∧ ((cs.length = n ∧ out = cs) ∨
      (cs.length ≠ n ∧ ∃ t, cs = [t] ∧ st.takesInput = true ∧ t.session = none ∧
        t.endpointState = none ∧ out = List.replicate n t)) := by
  unfold poolContexts at h
  split at h
  · cases h
  rename_i hn
  split at h
  · cases h
    exact ⟨by omega, .inl ⟨‹_›, rfl⟩⟩
  rename_i hlen
  split at h
  · rename_i t
    split at h
    · cases h
    rename_i hin
    split at h
    · cases h
    rename_i hfree
    cases h
    simp only [Bool.not_eq_true', Bool.not_eq_false] at hin
    simp only [Bool.or_eq_true, not_or, Option.not_isSome_iff_eq_none] at hfree
    exact ⟨by omega, .inr ⟨hlen, t, rfl, hin, hfree.1, hfree.2, rfl⟩⟩
  · cases h

theorem poolContexts_ok_iff :
    (∃ out, poolContexts cs n st = .ok out) ↔
      0 < n ∧ (cs.length = n ∨
        ∃ t, cs = [t] ∧ st.takesInput = true ∧ t.session = none ∧ t.endpointState = none) := by
  constructor
  · rintro ⟨out, h⟩
    obtain ⟨hn, ⟨hlen, -⟩ | ⟨-, t, rfl, hin, hs, he, -⟩⟩ := poolContexts_eq h
    · exact ⟨hn, .inl hlen⟩
    · exact ⟨hn, .inr ⟨t, rfl, hin, hs, he⟩⟩
  · rintro ⟨hn, hlen | ⟨t, rfl, hin, hs, he⟩⟩
    · exact ⟨cs, by simp [poolContexts, hlen, Nat.pos_iff_ne_zero.1 hn]⟩
    · by_cases h1 : 1 = n
      · exact ⟨[t], by simp [poolContexts, h1, Nat.pos_iff_ne_zero.1 hn]⟩
      · exact ⟨List.replicate n t, by
          simp [poolContexts, h1, Nat.pos_iff_ne_zero.1 hn, hin, hs, he]⟩

theorem poolContexts_spread (h : poolContexts cs n st = .ok out) :
    out.length = n ∧ (cs.length = n → out = cs) ∧
      (cs.length ≠ n → ∃ t, cs = [t] ∧ out = List.replicate n t) := by
  obtain ⟨-, ⟨hlen, rfl⟩ | ⟨hlen, t, rfl, -, -, -, rfl⟩⟩ := poolContexts_eq h
  · exact ⟨hlen, fun _ => rfl, fun h => absurd hlen h⟩
  · exact ⟨List.length_replicate .., fun h => absurd h hlen, fun _ => ⟨t, rfl, rfl⟩⟩

theorem poolContexts_shared (h : poolContexts cs n st = .ok out) {f : CallContext → Option γ}
    (hf : ∀ t : CallContext, t.session = none → t.endpointState = none → f t = none) (x : γ)
    (hx : Shared f out x) : Shared f cs x := by
  obtain ⟨-, ⟨-, rfl⟩ | ⟨-, t, -, -, hs, he, rfl⟩⟩ := poolContexts_eq h
  · exact hx
  · exact absurd hx (not_shared_replicate (hf t hs he) n x)

end Spread

namespace Run

variable {L : Listeners σ α β} {svc : Service σ} {budget : Nat} {r r' : Run α β}

/-- Two runs with as many workers. -/
def SameWorkers (r r' : Run α β) : Prop := r'.workers.length = r.workers.length

theorem sameWorkers_setPhase (r : Run α β) (i : Nat) (p : Phase α) :
    SameWorkers r (r.setPhase i p) :=
  List.length_modify _ _ _

theorem sameWorkers_leave (r : Run α β) (i : Nat) (p : Phase α) : SameWorkers r (r.leave i p) := by
  obtain ⟨lv, h⟩ := leave_eq r i p
  rw [h]
  exact sameWorkers_setPhase r i p

theorem sameWorkers_start {x : Except Error Unit} (h : r.start L = (x, r')) : SameWorkers r r' := by
  rcases start_cases h with ⟨st, sd, lv, rfl⟩ | ⟨e, st, lv, k, rfl⟩
  · rfl
  · exact List.length_mapIdx ..

theorem sameWorkers_close (L : Listeners σ α β) (r : Run α β) : SameWorkers r (r.close L).2 := by
  rcases close_cases L r with ⟨st, sd, lv, h⟩ | ⟨e, st, lv, k, h⟩ <;> rw [h]
  · rfl
  · exact List.length_mapIdx ..

theorem SameWorkers.stepwise : Stepwise (SameWorkers (α := α) (β := β)) where
  refl _ := rfl
  trans h h' := h'.trans h
  setPhase := sameWorkers_setPhase
  setContext _ _ _ := List.length_modify _ _ _
  leave := sameWorkers_leave
  abort _ _ := rfl
  takeBatch r i := by
    unfold takeBatch
    repeat' split
    all_goals first
      | exact sameWorkers_setPhase _ _ _
      | exact sameWorkers_leave _ _ _
      | rfl
  sums _ _ _ _ := rfl

theorem enqueue_sameWorkers {item : α} {res : Intake} {s s' : σ}
    (h : (r.enqueue L svc budget item).run s = (.ok (res, r'), s')) : SameWorkers r r' := by
  rcases enqueue_shape h with ⟨rfl, -⟩ | ⟨rfl, -⟩ | ⟨-, r₂, h₂, hr⟩
  · exact SameWorkers.stepwise.refl _
  · rfl
  · have hr₂ : SameWorkers r r₂ :=
      SameWorkers.stepwise.trans (sameWorkers_setPhase { r with queue := [] } 0 _)
        (settle_yields SameWorkers.stepwise 0 budget _ s r₂ s' h₂)
    rcases hr with rfl | rfl <;> exact hr₂

theorem offer_sameWorkers {item : α} {res : Intake} {s s' : σ}
    (h : (r.offer L svc budget item).run s = (.ok (res, r'), s')) : SameWorkers r r' := by
  rcases offer_starts h with ⟨-, rfl, -⟩ | ⟨-, e, hs, -⟩ | ⟨-, r₁, hs, h₁⟩
  · exact SameWorkers.stepwise.refl _
  · exact sameWorkers_start hs
  · exact SameWorkers.stepwise.trans (sameWorkers_start hs) (enqueue_sameWorkers h₁)

theorem sameWorkers_life {x y : Run α β × σ} (h : Life L svc budget x y) :
    SameWorkers x.1 y.1 := by
  cases h with
  | move h =>
    cases h with
    | offer item res h => exact offer_sameWorkers h
    | take i ctx _ _ => exact SameWorkers.stepwise.takeBatch _ i
    | call i ctx batch n res _ _ _ _ h => exact afterCall_yields SameWorkers.stepwise res _ _ _ h
    | crash i ctx batch n t => exact sameWorkers_leave _ i _
    | abandon i ctx batch n _ _ _ => exact sameWorkers_leave _ i _
    | close => exact sameWorkers_close L _
  | accept item res h =>
    refine accept_go_chain (fun x y => SameWorkers x.1 y.1) SameWorkers.stepwise.trans
      (fun h _ => offer_sameWorkers h) ?_ budget h
    intro r r₁ r₂ s s₁ s₂ h₁ h₂
    exact SameWorkers.stepwise.trans (offer_sameWorkers h₁)
      (round_yields SameWorkers.stepwise r₁ s₁ r₂ s₂ h₂)

theorem sameWorkers_reach {x y : Run α β × σ} (h : Relation.ReflTransGen (Life L svc budget) x y) :
    SameWorkers x.1 y.1 := by
  induction h with
  | refl => exact SameWorkers.stepwise.refl _
  | tail _ hs ih => exact SameWorkers.stepwise.trans ih (sameWorkers_life hs)

theorem await_contexts_length {rep : Report} {r'' : Run α β} {s s' : σ}
    (h : (r.await L svc budget).run s = (.ok (.ok rep, r''), s')) :
    rep.contexts.length = r.workers.length := by
  rcases await_finishes SameWorkers.stepwise h with ⟨e, -, he⟩ | ⟨r₁, r₂, hc, hr₂, hfin⟩
  · cases he
  rw [finish_contexts hfin, contexts, List.length_map]
  have hclose := sameWorkers_close L r
  rw [hc] at hclose
  exact SameWorkers.stepwise.trans hclose hr₂

theorem withThreads_ok {e : Endpoint α β} {cs : List CallContext} {n : Nat}
    (h : withThreads e cs n = .ok r) :
    ∃ out, poolContexts cs n e.style = .ok out ∧ r.pooled = true ∧
      r.workers.map (·.context) = out := by
  unfold withThreads at h
  cases hp : poolContexts cs n e.style with
  | error err => rw [hp] at h; cases h
  | ok out =>
    rw [hp] at h
    obtain ⟨-, -, hpool, -, -, -, -, hw⟩ := new_pool h
    refine ⟨out, rfl, hpool, ?_⟩
    rw [hw, List.map_map]
    exact List.map_id _

end Run

/-- How contexts are spread over a thread count, and what the pool reports. -/
theorem thread_pool_spreads_contexts {cs : List CallContext} {n : Nat} {st : CallStyle} :
    ((∃ out, poolContexts cs n st = .ok out) ↔
      0 < n ∧ (cs.length = n ∨
        ∃ t, cs = [t] ∧ st.takesInput = true ∧ t.session = none ∧ t.endpointState = none)) ∧
    (∀ out, poolContexts cs n st = .ok out →
      out.length = n ∧ (cs.length = n → out = cs) ∧
      (cs.length ≠ n → ∃ t, cs = [t] ∧ out = List.replicate n t) ∧
      (∀ x, Shared CallContext.session out x → Shared CallContext.session cs x) ∧
      (∀ x, Shared CallContext.endpointState out x → Shared CallContext.endpointState cs x)) ∧
    ∀ (α β σ : Type) (e : Endpoint α β) (r : Run α β), e.style = st →
      Run.withThreads e cs n = .ok r →
      r.pooled = true ∧ r.workers.length = n ∧
      (∀ x, Shared CallContext.session (r.workers.map (·.context)) x →
        Shared CallContext.session cs x) ∧
      (∀ x, Shared CallContext.endpointState (r.workers.map (·.context)) x →
        Shared CallContext.endpointState cs x) ∧
      ∀ (L : Listeners σ α β) (svc : Service σ) (budget : Nat) (s₀ : σ) (r' : Run α β) (s : σ)
        (rep : Report) (r'' : Run α β) (s' : σ),
        Relation.ReflTransGen (Life L svc budget) (r, s₀) (r', s) →
        (r'.await L svc budget).run s = (.ok (.ok rep, r''), s') → rep.contexts.length = n := by
  have hsession : ∀ t : CallContext, t.session = none → t.endpointState = none →
      t.session = none := fun _ hs _ => hs
  have hstate : ∀ t : CallContext, t.session = none → t.endpointState = none →
      t.endpointState = none := fun _ _ he => he
  refine ⟨poolContexts_ok_iff, fun out h => ?_, ?_⟩
  · obtain ⟨hlen, hsame, hcopies⟩ := poolContexts_spread h
    exact ⟨hlen, hsame, hcopies, poolContexts_shared h hsession, poolContexts_shared h hstate⟩
  intro α β σ e r hst h
  subst hst
  obtain ⟨out, hout, hpool, hctx⟩ := Run.withThreads_ok h
  have hlen : r.workers.length = n := by
    rw [← List.length_map (f := (·.context)), hctx]
    exact (poolContexts_spread hout).1
  refine ⟨hpool, hlen, fun x hx => poolContexts_shared hout hsession x (hctx ▸ hx),
    fun x hx => poolContexts_shared hout hstate x (hctx ▸ hx), ?_⟩
  intro L svc budget s₀ r' s rep r'' s' hreach hawait
  have hsame : r'.workers.length = r.workers.length := Run.sameWorkers_reach hreach
  rw [Run.await_contexts_length hawait, hsame, hlen]

theorem thread_pool_of_template :
    ∃ r : Run Unit Unit,
      Run.withThreads ⟨⟨⟨"p", none, none, none, none, none, 2, 0⟩, none, none⟩, .input, {}⟩
        [{}] 3 = .ok r ∧ r.pooled = true ∧ r.workers.length = 3 := by
  have h := (@thread_pool_spreads_contexts [{}] 3 .input).2.2 Unit Unit Unit
    ⟨⟨⟨"p", none, none, none, none, none, 2, 0⟩, none, none⟩, .input, {}⟩ _ rfl rfl
  exact ⟨_, rfl, h.1, h.2.1⟩

end EndpointCall.Bulk
