import EndpointCall.Proofs.BulkSteps
/-! What the workers' computations keep. -/
namespace EndpointCall.Bulk

variable {α β σ : Type}

namespace Run

structure Stepwise (R : Run α β → Run α β → Prop) : Prop where
  refl : ∀ r, R r r
  trans : ∀ {r r' r''}, R r r' → R r' r'' → R r r''
  setPhase : ∀ r i p, R r (r.setPhase i p)
  setContext : ∀ r i ctx, R r (r.setContext i ctx)
  leave : ∀ r i p, R r (r.leave i p)
  abort : ∀ r e, R r (r.abort e)
  takeBatch : ∀ r i, R r (r.takeBatch i)
  sums : ∀ (r : Run α β) c rt sk, R r { r with calls := c, retries := rt, skipped := sk }

def Yields (R : Run α β → Run α β → Prop) (r : Run α β) (x : Act σ (Run α β)) : Prop :=
  ∀ s r' s', x.run s = (.ok r', s') → R r r'

/-! ### Worker computations as chains of moves -/

/-- A composing relation between runs that every move of a worker satisfies. -/
structure Chained (L : Listeners σ α β) (svc : Service σ)
    (T : Run α β × σ → Run α β × σ → Prop) : Prop where
  refl : ∀ x, T x x
  trans : ∀ {x y z}, T x y → T y z → T x z
  call : ∀ {r r' : Run α β} {s s₁ s' : σ} (i : Nat) (ctx : CallContext) (batch : List α)
    (n : UInt32) (res : Except Error (List β × Bool) × CallContext),
    r.workers[i]? = some ⟨ctx, .holding batch n⟩ → r.aborted = false →
    ((r.endpoint.bulkCall svc batch).run.run ctx).run s = (res, s₁) →
    (r.afterCall L i batch n res).run s₁ = (.ok r', s') → T (r, s) (r', s')
  take : ∀ (r : Run α β) (s : σ) (i : Nat), r.gone i = false → T (r, s) (r.takeBatch i, s)
  quit : ∀ (r : Run α β) (s : σ) (i : Nat), r.aborted = true →
    T (r, s) (r.leave i .stopped, s)

def Reaches (T : Run α β × σ → Run α β × σ → Prop) (r : Run α β) (s : σ)
    (m : Act σ (Run α β)) : Prop :=
  ∀ r' s', m.run s = (.ok r', s') → T (r, s) (r', s')

namespace Reaches

variable {T : Run α β × σ → Run α β × σ → Prop} {r : Run α β} {s : σ}

theorem pure {r' : Run α β} (h : T (r, s) (r', s)) : Reaches T r s (Pure.pure r') := by
  intro r₁ s₁ h₁
  obtain ⟨rfl, rfl⟩ := act_run_pure.1 h₁
  exact h

theorem throw (h : Halt) : Reaches T r s (MonadExcept.throw h) := by
  intro r₁ s₁ h₁
  cases h₁

theorem bind {m : Act σ (Run α β)} {f : Run α β → Act σ (Run α β)} (hm : Reaches T r s m)
    (htrans : ∀ {x y z}, T x y → T y z → T x z)
    (hf : ∀ r₁ s₁, T (r, s) (r₁, s₁) → Reaches T r₁ s₁ (f r₁)) : Reaches T r s (m >>= f) := by
  intro r' s' h
  rw [act_run_bind] at h
  split at h
  · rename_i r₁ s₁ h₁
    exact htrans (hm r₁ s₁ h₁) (hf r₁ s₁ (hm r₁ s₁ h₁) r' s' h)
  · cases h

end Reaches

/-! `drive` ends only once every worker has left its loop, and `runWorker` once its worker has. -/

section Leaving

variable {L : Listeners σ α β} {svc : Service σ}

theorem drive_allGone : ∀ (fuel : Nat) (r : Run α β) {r' : Run α β} {s s' : σ},
    (r.drive L svc fuel).run s = (.ok r', s') → r'.allGone = true
  | 0, r, r', s, s', h => by
    unfold drive at h
    split at h
    · obtain ⟨rfl, -⟩ := act_run_pure.1 h
      assumption
    · cases h
  | fuel + 1, r, r', s, s', h => by
    unfold drive at h
    split at h
    · obtain ⟨rfl, -⟩ := act_run_pure.1 h
      assumption
    · rw [act_run_bind] at h
      split at h
      · exact drive_allGone fuel _ h
      · cases h

theorem runWorker_leaves {budget i : Nat} :
    ∀ (fuel : Nat) (r : Run α β) {r' : Run α β} {s s' : σ},
    (r.runWorker L svc budget i fuel).run s = (.ok r', s') → r'.gone i = true
  | 0, r, r', s, s', h => by
    unfold runWorker at h
    split at h
    · obtain ⟨rfl, -⟩ := act_run_pure.1 h
      assumption
    · cases h
  | fuel + 1, r, r', s, s', h => by
    unfold runWorker at h
    split at h
    · obtain ⟨rfl, -⟩ := act_run_pure.1 h
      assumption
    · rw [act_run_bind] at h
      split at h
      · exact runWorker_leaves fuel _ h
      · cases h

end Leaving

section Chained

variable {L : Listeners σ α β} {svc : Service σ} {T : Run α β × σ → Run α β × σ → Prop}
  (hT : Chained L svc T)
include hT

theorem workStep_reaches (r : Run α β) (s : σ) (i : Nat) :
    Reaches T r s (r.workStep L svc i) := by
  unfold workStep
  split
  · rename_i ctx batch n hw
    unfold attempt
    split
    · exact .pure (hT.quit r s i ‹_›)
    · rename_i ha
      intro r' s' h
      rw [act_run_bind, act_run_lift] at h
      exact hT.call i ctx batch n _ hw (by simpa using ha) rfl h
  · rename_i hw
    exact .pure (hT.take r s i (by simp [gone, hw, Phase.isGone]))
  · exact .pure (hT.refl _)

theorem settle_reaches (i : Nat) :
    ∀ (fuel : Nat) (r : Run α β) (s : σ), Reaches T r s (r.settle L svc i fuel)
  | 0, r, s => by
    unfold settle
    split
    · exact .throw _
    · exact .pure (hT.refl _)
  | fuel + 1, r, s => by
    unfold settle
    split
    · exact (workStep_reaches hT r s i).bind hT.trans fun r₁ s₁ _ =>
        settle_reaches i fuel r₁ s₁
    · exact .pure (hT.refl _)

theorem runWorker_reaches (budget i : Nat) :
    ∀ (fuel : Nat) (r : Run α β) (s : σ), Reaches T r s (r.runWorker L svc budget i fuel)
  | 0, r, s => by
    unfold runWorker
    split
    · exact .pure (hT.refl _)
    · exact .throw _
  | fuel + 1, r, s => by
    unfold runWorker
    split
    · exact .pure (hT.refl _)
    · rename_i hg
      refine Reaches.bind (fun r₁ s₁ h => ?_) hT.trans fun r₁ s₁ _ =>
        runWorker_reaches budget i fuel r₁ s₁
      exact hT.trans (hT.take r s i (by simpa using hg))
        (settle_reaches hT i budget _ s r₁ s₁ h)

theorem foldlM_workStep_reaches :
    ∀ (l : List Nat) (r : Run α β) (s : σ),
      Reaches T r s (l.foldlM (fun (r : Run α β) i => r.workStep L svc i) r)
  | [], r, s => .pure (hT.refl _)
  | i :: l, r, s => by
    rw [List.foldlM_cons]
    exact (workStep_reaches hT r s i).bind hT.trans fun r₁ s₁ _ =>
      foldlM_workStep_reaches l r₁ s₁

theorem drive_reaches :
    ∀ (fuel : Nat) (r : Run α β) (s : σ), Reaches T r s (r.drive L svc fuel)
  | 0, r, s => by
    unfold drive
    split
    · exact .pure (hT.refl _)
    · exact .throw _
  | fuel + 1, r, s => by
    unfold drive
    split
    · exact .pure (hT.refl _)
    · exact (foldlM_workStep_reaches hT _ r s).bind hT.trans fun r₁ s₁ _ =>
        drive_reaches fuel r₁ s₁

theorem drain_reaches {budget : Nat} {r r' : Run α β} {s s' : σ} {res : Except Error Report}
    (hwake : r.pooled = false → 0 < r.live → T (r, s) (r.setPhase 0 .ready, s))
    (h : (r.drain L svc budget).run s = (.ok (res, r'), s')) :
    ∃ r₂, T (r, s) (r₂, s') ∧ r₂.finish = (res, r') ∧ (r.pooled = true → r₂.allGone = true) ∧
      (r.pooled = false → 0 < r.live → r₂.gone 0 = true) := by
  have hjoin : ∀ m : Act σ (Run α β), Reaches T r s m →
      (∀ r₂ s₂, m.run s = (.ok r₂, s₂) → (r.pooled = true → r₂.allGone = true) ∧
        (r.pooled = false → 0 < r.live → r₂.gone 0 = true)) →
      (m >>= fun r => pure r.finish).run s = (.ok (res, r'), s') →
      ∃ r₂, T (r, s) (r₂, s') ∧ r₂.finish = (res, r') ∧ (r.pooled = true → r₂.allGone = true) ∧
        (r.pooled = false → 0 < r.live → r₂.gone 0 = true) := by
    intro m hm hend h
    rw [act_run_bind] at h
    split at h
    · rename_i r₂ s₂ h₂
      obtain ⟨hres, rfl⟩ := act_run_pure.1 h
      exact ⟨r₂, hm r₂ s₂ h₂, hres, hend r₂ s₂ h₂⟩
    · cases h
  unfold drain at h
  dsimp only at h
  split at h
  · rename_i hp
    refine hjoin _ (drive_reaches hT _ _ s) (fun r₂ s₂ h₂ => ⟨fun _ => ?_, fun hp' => ?_⟩) h
    · exact drive_allGone _ _ h₂
    · rw [hp] at hp'
      cases hp'
  · rename_i hp
    split at h
    · rename_i hl
      refine hjoin _ (fun r₂ s₂ h₂ => ?_) (fun r₂ s₂ h₂ => ⟨fun hp' => ?_, fun _ _ => ?_⟩) h
      · exact hT.trans (hwake (by simpa using hp) hl)
          (runWorker_reaches hT budget 0 _ _ s r₂ s₂ h₂)
      · exact absurd hp' hp
      · exact runWorker_leaves _ _ h₂
    · rename_i hl
      refine hjoin _ (.pure (hT.refl _)) (fun r₂ s₂ h₂ => ⟨fun hp' => ?_, fun _ hl' => ?_⟩) h
      · exact absurd hp' hp
      · exact absurd hl' hl

end Chained

section Workers

variable {R : Run α β → Run α β → Prop} (hR : Stepwise R) {L : Listeners σ α β}
  {svc : Service σ} {r r' : Run α β}
include hR

theorem afterPanic_rel {i : Nat} {t : Option String} (h : r.afterPanic i t = .ok r') : R r r' := by
  obtain ⟨-, rfl⟩ := afterPanic_ok h
  exact hR.trans (hR.abort r _) (hR.leave _ i _)

theorem afterVerdict_rel {i : Nat} {batch : List α} {n : UInt32} {e : Error}
    {v : Option Verdict} (h : r.afterVerdict i batch n e v = .ok r') : R r r' := by
  rcases v with _ | ⟨⟨_ | _ | _ | _⟩ | t⟩ <;> simp only [afterVerdict] at h
  · cases h
    exact hR.trans (hR.abort r e) (hR.leave _ i _)
  · cases h
    exact hR.trans (hR.sums r _ _ _) (hR.setPhase _ i _)
  · split at h <;> cases h
    · exact hR.trans (hR.sums r _ _ _) (hR.setPhase _ i _)
    · exact hR.trans (hR.sums r _ _ _) (hR.leave _ i _)
  · cases h
    exact hR.leave r i _
  · cases h
    exact hR.trans (hR.abort r e) (hR.leave _ i _)
  · exact afterPanic_rel hR h

theorem afterCall_yields {i : Nat} {batch : List α} {n : UInt32}
    (res : Except Error (List β × Bool) × CallContext) :
    Yields R r (r.afterCall L i batch n res) := by
  intro s r' s' h
  obtain ⟨out, ctx⟩ := res
  rcases out with e | ⟨outs, more⟩
  · obtain ⟨hv, -⟩ := afterCall_failure h
    exact hR.trans (hR.setContext r i ctx) (afterVerdict_rel hR hv)
  · have hc : R r ({ r with calls := r.calls + 1 }.setContext i ctx) :=
      hR.trans (hR.sums r _ _ _) (hR.setContext _ i ctx)
    obtain ⟨x, -, ⟨-, rfl⟩ | ⟨t, -, -, rfl⟩⟩ := afterCall_success h
    · cases more
      · exact hR.trans hc (hR.leave _ i _)
      · exact hR.trans hc (hR.setPhase _ i _)
    · exact hR.trans hc (hR.trans (hR.abort _ _) (hR.leave _ i _))

theorem Stepwise.chained : Chained L svc fun x y => R x.1 y.1 where
  refl x := hR.refl x.1
  trans := hR.trans
  call _ _ _ _ res _ _ _ h := afterCall_yields hR res _ _ _ h
  take r _ i _ := hR.takeBatch r i
  quit r _ i _ := hR.leave r i _

theorem settle_yields (i fuel : Nat) (r : Run α β) : Yields R r (r.settle L svc i fuel) :=
  fun s => settle_reaches hR.chained i fuel r s

theorem round_yields (r : Run α β) : Yields R r (r.round L svc) :=
  fun s => foldlM_workStep_reaches hR.chained _ r s

/-- `await` fails with a refused start, or runs the workers and finishes the run. -/
theorem await_finishes {budget : Nat} {s s' : σ} {res : Except Error Report}
    (h : (r.await L svc budget).run s = (.ok (res, r'), s')) :
    (∃ e, r.close L = (.error e, r') ∧ res = .error e) ∨
      ∃ r₁ r₂, r.close L = (.ok (), r₁) ∧ R r₁ r₂ ∧ r₂.finish = (res, r') := by
  rcases await_cases h with ⟨e, hc, rfl, -⟩ | ⟨r₁, hc, hd⟩
  · exact .inl ⟨e, hc, rfl⟩
  · obtain ⟨r₂, hr, hfin, -⟩ := drain_reaches hR.chained (fun _ _ => hR.setPhase _ 0 _) hd
    exact .inr ⟨r₁, r₂, hc, hr, hfin⟩

end Workers

end Run

end EndpointCall.Bulk
