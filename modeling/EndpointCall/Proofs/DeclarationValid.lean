import EndpointCall.Proofs.DescriptorRead
import EndpointCall.Declaration.Basic
import Mathlib.Data.List.Forall2
/-! Which declarations a caller accepts. -/
namespace EndpointCall

def ParamRole.slot : ParamRole → ParamRole
  | .constants _ => .constants .endpointConstants
  | r => r

def ParamDescriptor.Fits (p : ParamDescriptor) : Prop :=
  match p.role with
  | .endpointState => p.multiple = false ∧ p.nullable = true
  | .input => p.multiple = true ∧ p.nullable = true
  | .session => p.dataType = .session ∧ p.multiple = false
  | .constants _ => p.multiple = false

def Declaration.BulkSettings : Option Json → Prop
  | none => True
  | some b => b.isObject = true ∧
      ∀ v, b.get? "inputBatchSize" = some v → ∃ n : Int, v = .num (.int n) ∧ 0 < n

namespace Declaration

def ParamsDeclared (j : Json) (ps : List ParamDescriptor) : Prop :=
  (j.get? "params" = none ∧ ps = []) ∨
    ∃ js, j.get? "params" = some (.arr js) ∧ List.Forall₂ DeclaresParam js ps

def ReturnDeclared (j : Json) (ret : Option ReturnDescriptor) : Prop :=
  (j.get? "return" = none ∧ ret = none) ∨
    ∃ rj r, j.get? "return" = some rj ∧ DeclaresReturn rj r ∧ ret = some r

/-- A valid endpoint declaration for a caller with the given handles. -/
structure Valid (j : Json) (hasInput hasOutput : Bool) (ps : List ParamDescriptor)
    (ret : Option ReturnDescriptor) : Prop where
  isObject : j.isObject = true
  path : ∃ p, j.get? "endpoint" = some (.str p) ∧ p ≠ ""
  params : ParamsDeclared j ps
  fits : ∀ p ∈ ps, p.Fits
  once : (ps.map (·.role.slot)).Nodup
  input : (∃ p ∈ ps, p.role = .input) ↔ hasInput = true
  returns : ReturnDeclared j ret
  nullable : ∀ r, ret = some r → r.nullable = true
  output : hasOutput = true → ret ≠ none
  carried : ret ≠ none → hasOutput = true ∨ ∃ p ∈ ps, p.role = .endpointState
  state : ∀ p ∈ ps, p.role = .endpointState → ∃ r, ret = some r ∧ r.format = p.format
  bulk : BulkSettings (j.get? "$bulk")

end Declaration

theorem ParamRole.slot_eq_iff {r r' : ParamRole} (h : ∀ c, r' ≠ .constants c) :
    r.slot = r'.slot ↔ r = r' := by
  rcases r with _ | _ | _ | ⟨_ | _⟩ <;> rcases r' with _ | _ | _ | ⟨_ | _⟩ <;>
    simp_all [ParamRole.slot]

namespace ParamSlots

def held (s : ParamSlots) : ParamRole → Option ParamDescriptor
  | .endpointState => s.endpointState
  | .input => s.input
  | .session => s.session
  | .constants _ => s.constants

theorem held_congr {s : ParamSlots} {r r' : ParamRole} (h : r.slot = r'.slot) :
    s.held r = s.held r' := by
  rcases r with _ | _ | _ | ⟨_ | _⟩ <;> rcases r' with _ | _ | _ | ⟨_ | _⟩ <;>
    simp_all [ParamRole.slot, held]

variable {hi : Bool}

theorem add_ok_iff {s : ParamSlots} {p : ParamDescriptor} :
    (∃ s', s.add hi p = .ok s') ↔
      p.Fits ∧ (p.role = .input → hi = true) ∧ s.held p.role = none := by
  obtain ⟨role, dt, m, n⟩ := p
  cases role with
  | constants c =>
    simp only [add, ParamDescriptor.Fits, held]
    split
    · simp_all
    · split_ifs <;> simp_all
  | _ =>
    simp only [add, ParamDescriptor.Fits, held]
    split_ifs <;> simp_all [Option.isSome_iff_ne_none]

theorem add_held {s s' : ParamSlots} {p : ParamDescriptor} (h : s.add hi p = .ok s')
    (r : ParamRole) : s'.held r = if r.slot = p.role.slot then some p else s.held r := by
  obtain ⟨role, dt, m, n⟩ := p
  cases role with
  | constants c =>
    simp only [add] at h
    split at h
    · cases h
    split_ifs at h
    cases h
    rcases r with _ | _ | _ | ⟨_ | _⟩ <;> simp [held, ParamRole.slot]
  | _ =>
    simp only [add] at h
    split_ifs at h
    cases h
    rcases r with _ | _ | _ | ⟨_ | _⟩ <;> simp [held, ParamRole.slot]

theorem foldlM_add_ok_iff {ps : List ParamDescriptor} {s : ParamSlots} :
    (∃ s', ps.foldlM (add hi) s = .ok s') ↔
      (∀ p ∈ ps, p.Fits ∧ (p.role = .input → hi = true) ∧ s.held p.role = none) ∧
      (ps.map (·.role.slot)).Nodup := by
  induction ps generalizing s with
  | nil => simp [pure, Except.pure]
  | cons p ps ih =>
    simp only [List.foldlM_cons, List.forall_mem_cons, List.map_cons, List.nodup_cons]
    constructor
    · rintro ⟨s', h⟩
      obtain ⟨s₁, h₁, h₂⟩ := Except.bind_eq_ok.1 h
      obtain ⟨hall, hnd⟩ := ih.1 ⟨s', h₂⟩
      have hfree : ∀ q ∈ ps, q.role.slot ≠ p.role.slot ∧ s.held q.role = none := by
        intro q hq
        have hq₁ := (hall q hq).2.2
        rw [add_held h₁] at hq₁
        split_ifs at hq₁ with hs
        exact ⟨hs, hq₁⟩
      refine ⟨⟨add_ok_iff.1 ⟨s₁, h₁⟩, fun q hq => ⟨(hall q hq).1, (hall q hq).2.1,
        (hfree q hq).2⟩⟩, fun hm => ?_, hnd⟩
      obtain ⟨q, hq, hs⟩ := List.mem_map.1 hm
      exact (hfree q hq).1 hs
    · rintro ⟨⟨hp, hrest⟩, hnot, hnd⟩
      obtain ⟨s₁, h₁⟩ := add_ok_iff.2 hp
      have hfree : ∀ q ∈ ps, q.Fits ∧ (q.role = .input → hi = true) ∧ s₁.held q.role = none := by
        intro q hq
        have hs : q.role.slot ≠ p.role.slot := fun hs => hnot (List.mem_map.2 ⟨q, hq, hs⟩)
        rw [add_held h₁, if_neg hs]
        exact hrest q hq
      obtain ⟨s', h'⟩ := ih.2 ⟨hfree, hnd⟩
      exact ⟨s', Except.bind_eq_ok.2 ⟨s₁, h₁, h'⟩⟩

theorem foldlM_add_held {ps : List ParamDescriptor} {s s' : ParamSlots}
    (h : ps.foldlM (add hi) s = .ok s') (r : ParamRole) (q : ParamDescriptor) :
    s'.held r = some q ↔ s.held r = some q ∨ (q ∈ ps ∧ q.role.slot = r.slot) := by
  induction ps generalizing s with
  | nil =>
    cases Except.pure_eq_ok.1 h
    simp
  | cons p ps ih =>
    obtain ⟨s₁, h₁, h₂⟩ := Except.bind_eq_ok.1 h
    rw [ih h₂, add_held h₁]
    by_cases hs : r.slot = p.role.slot
    · have hfree : s.held r = none := by
        rw [held_congr hs]
        exact (add_ok_iff.1 ⟨s₁, h₁⟩).2.2
      rw [if_pos hs, hfree]
      constructor
      · rintro (h | ⟨hq, hqs⟩)
        · cases h
          exact .inr ⟨List.mem_cons_self, hs.symm⟩
        · exact .inr ⟨List.mem_cons_of_mem _ hq, hqs⟩
      · rintro (h | ⟨hq, hqs⟩)
        · cases h
        · rcases List.mem_cons.1 hq with rfl | hq
          · exact .inl rfl
          · exact .inr ⟨hq, hqs⟩
    · rw [if_neg hs]
      constructor
      · rintro (h | ⟨hq, hqs⟩)
        · exact .inl h
        · exact .inr ⟨List.mem_cons_of_mem _ hq, hqs⟩
      · rintro (h | ⟨hq, hqs⟩)
        · exact .inl h
        · rcases List.mem_cons.1 hq with rfl | hq
          · exact absurd hqs.symm hs
          · exact .inr ⟨hq, hqs⟩

@[simp] theorem held_empty (r : ParamRole) : ({} : ParamSlots).held r = none := by
  cases r <;> rfl

def Holds (s : ParamSlots) (ps : List ParamDescriptor) : Prop :=
  ∀ r q, s.held r = some q ↔ q ∈ ps ∧ q.role.slot = r.slot

theorem holds_of_foldlM {ps : List ParamDescriptor} {s : ParamSlots}
    (h : ps.foldlM (add hi) {} = .ok s) : s.Holds ps := by
  intro r q
  rw [foldlM_add_held h r q]
  simp

theorem Holds.eq_some {s : ParamSlots} {ps : List ParamDescriptor} (h : s.Holds ps)
    {r : ParamRole} (hr : ∀ c, r ≠ .constants c) {q : ParamDescriptor} :
    s.held r = some q ↔ q ∈ ps ∧ q.role = r := by
  rw [h r q, ParamRole.slot_eq_iff hr]

theorem Holds.isSome {s : ParamSlots} {ps : List ParamDescriptor} (h : s.Holds ps)
    {r : ParamRole} (hr : ∀ c, r ≠ .constants c) :
    (s.held r).isSome = true ↔ ∃ q ∈ ps, q.role = r := by
  rw [Option.isSome_iff_exists]
  simp only [h.eq_some hr]

theorem Holds.endpointState_eq {s : ParamSlots} {ps : List ParamDescriptor} (h : s.Holds ps)
    {q : ParamDescriptor} : s.endpointState = some q ↔ q ∈ ps ∧ q.role = .endpointState :=
  h.eq_some (r := .endpointState) fun _ h => nomatch h

theorem Holds.endpointState_isSome {s : ParamSlots} {ps : List ParamDescriptor} (h : s.Holds ps) :
    s.endpointState.isSome = true ↔ ∃ q ∈ ps, q.role = .endpointState :=
  h.isSome (r := .endpointState) fun _ h => nomatch h

theorem Holds.input_check {s : ParamSlots} {ps : List ParamDescriptor} (h : s.Holds ps)
    {hi : Bool} : (s.input.isNone && hi) = false ↔ (hi = true → ∃ p ∈ ps, p.role = .input) := by
  have hs : s.input.isSome = true ↔ ∃ p ∈ ps, p.role = .input :=
    h.isSome (r := .input) fun _ h => nomatch h
  rw [← hs]
  cases hi <;> cases s.input <;> simp

end ParamSlots

theorem foldlM_bind_ok {ε α β γ : Type} {f : α → Except ε β} {g : γ → β → Except ε γ}
    {xs : List α} {c c' : γ} :
    xs.foldlM (fun c x => f x >>= g c) c = .ok c' ↔
      ∃ ys, List.Forall₂ (fun x y => f x = .ok y) xs ys ∧ ys.foldlM g c = .ok c' := by
  induction xs generalizing c with
  | nil => simp
  | cons x xs ih =>
    rw [List.foldlM_cons, Except.bind_eq_ok]
    constructor
    · rintro ⟨c₁, h₁, hrest⟩
      obtain ⟨y, hy, hc₁⟩ := Except.bind_eq_ok.1 h₁
      obtain ⟨ys, hys, hfold⟩ := ih.1 hrest
      refine ⟨y :: ys, List.Forall₂.cons hy hys, ?_⟩
      rw [List.foldlM_cons, hc₁]
      exact hfold
    · rintro ⟨_ | ⟨y, ys⟩, hys, hfold⟩
      · cases hys
      · obtain ⟨hy, hys⟩ := List.forall₂_cons.1 hys
        obtain ⟨c₁, hc₁, hfold⟩ := Except.bind_eq_ok.1 hfold
        exact ⟨c₁, Except.bind_eq_ok.2 ⟨y, hy, hc₁⟩, ih.2 ⟨ys, hys, hfold⟩⟩

theorem Json.asNat_pos {v : Json} :
    (∃ n, v.asNat? = some n ∧ 0 < n) ↔ ∃ i : Int, v = .num (.int i) ∧ 0 < i := by
  rcases v with _ | _ | ⟨i | f⟩ | _ | _ | _ <;> simp [Json.asNat?]
  omega

theorem batchSizeOf_ok {b : Option Json} :
    (∃ n, batchSizeOf b = .ok n) ↔ Declaration.BulkSettings b := by
  rcases b with _ | b
  · simp [batchSizeOf, Declaration.BulkSettings]
  cases b with
  | obj fs =>
    simp only [batchSizeOf, Declaration.BulkSettings, Json.isObject, true_and]
    cases hv : (Json.obj fs).get? "inputBatchSize" with
    | none => simp
    | some v =>
      simp only [Option.some.injEq, forall_eq', ← Json.asNat_pos]
      cases v.asNat? with
      | none => simp
      | some n => by_cases hn : n > 0 <;> simp [hn]
  | _ => simp [batchSizeOf, Declaration.BulkSettings, Json.isObject]

theorem pathOf_ok {j : Json} :
    (∃ p, pathOf j = .ok p) ↔ ∃ p, j.get? "endpoint" = some (.str p) ∧ p ≠ "" := by
  unfold pathOf
  split
  · rename_i p hp
    by_cases he : p.isEmpty <;> simp_all [String.isEmpty_iff]
  · rename_i hn
    simp only [reduceCtorEq, exists_false, false_iff, not_exists, not_and]
    exact fun p hp => absurd hp (hn p)

theorem stateMatchesReturn_ok_iff {path : String} {st : Option ParamDescriptor}
    {ret : Option ReturnDescriptor} :
    stateMatchesReturn path st ret = .ok () ↔
      ∀ p, st = some p → ∃ r, ret = some r ∧ r.format = p.format := by
  rcases st with _ | p <;> rcases ret with _ | r <;> simp [stateMatchesReturn]

theorem returnsOf_ok {j : Json} {ho hs : Bool} {ret : Option ReturnDescriptor} :
    returnsOf j ho hs = .ok ret ↔
      (j.get? "return" = none ∧ ho = false ∧ ret = none) ∨
      ∃ rj r, j.get? "return" = some rj ∧ ReturnDescriptor.ofJson rj = .ok r ∧
        r.nullable = true ∧ (ho = true ∨ hs = true) ∧ ret = some r := by
  unfold returnsOf
  split
  · rename_i rj hrj
    split
    · rename_i e he
      simp [hrj, he]
    · rename_i r hr
      split_ifs with h₁ h₂
      · simp_all
      · simp_all
      · have hc : ho = true ∨ hs = true := by cases ho <;> simp_all
        rw [Except.ok.injEq]
        constructor
        · rintro rfl
          exact .inr ⟨rj, r, hrj, hr, by simpa using h₁, hc, rfl⟩
        · rintro (⟨h, -⟩ | ⟨rj', r', h, hr', -, -, rfl⟩) <;> rw [hrj] at h <;> cases h
          rw [hr] at hr'
          cases hr'
          rfl
  · rename_i hn
    cases ho <;> simp [hn]
    exact eq_comm

theorem slotsOf_ok {j : Json} {hi : Bool} {s : ParamSlots} :
    slotsOf j hi = .ok s ↔ ∃ ps, ((j.get? "params" = none ∧ ps = []) ∨
      ∃ js, j.get? "params" = some (.arr js) ∧
        List.Forall₂ (fun pj p => ParamDescriptor.ofJson pj = .ok p) js ps) ∧
      ps.foldlM (ParamSlots.add hi) {} = .ok s := by
  unfold slotsOf
  split
  · rename_i hn
    rw [Except.ok.injEq]
    constructor
    · rintro rfl
      exact ⟨[], .inl ⟨hn, rfl⟩, rfl⟩
    · rintro ⟨ps, ⟨-, rfl⟩ | ⟨js, hjs, -⟩, hf⟩
      · exact Except.pure_eq_ok.1 hf
      · simp [hn] at hjs
  · rename_i js hjs
    rw [foldlM_bind_ok]
    simp [hjs]
  · rename_i hn
    simp_all

namespace Declaration

theorem parse_ok_iff {j : Json} {hi ho : Bool} :
    (∃ d, parse j hi ho = .ok d) ↔ j.isObject = true ∧ (∃ path, pathOf j = .ok path) ∧
      ∃ s, slotsOf j hi = .ok s ∧ (s.input.isNone && hi) = false ∧
        ∃ ret, returnsOf j ho s.endpointState.isSome = .ok ret ∧
          (∀ p, s.endpointState = some p → ∃ r, ret = some r ∧ r.format = p.format) ∧
          BulkSettings (j.get? "$bulk") := by
  unfold parse
  by_cases hobj : j.isObject = true
  · rw [if_pos hobj]
    constructor
    · rintro ⟨d, h⟩
      obtain ⟨path, hp, h⟩ := Except.bind_eq_ok.1 h
      obtain ⟨s, hs, h⟩ := Except.bind_eq_ok.1 h
      split at h
      · cases h
      · rename_i hin
        obtain ⟨ret, hr, h⟩ := Except.bind_eq_ok.1 h
        obtain ⟨u, hst, h⟩ := Except.bind_eq_ok.1 h
        obtain ⟨b, hb, -⟩ := Except.bind_eq_ok.1 h
        exact ⟨hobj, ⟨path, hp⟩, s, hs, by simpa using hin, ret, hr,
          stateMatchesReturn_ok_iff.1 hst, batchSizeOf_ok.1 ⟨b, hb⟩⟩
    · rintro ⟨-, ⟨path, hp⟩, s, hs, hin, ret, hr, hst, hbulk⟩
      obtain ⟨b, hb⟩ := batchSizeOf_ok.2 hbulk
      refine ⟨⟨path, s.endpointState, s.input, s.session, s.constants, ret, b, s.nodeArgCount⟩,
        Except.bind_eq_ok.2 ⟨path, hp, Except.bind_eq_ok.2 ⟨s, hs, ?_⟩⟩⟩
      rw [if_neg (by simp [hin])]
      exact Except.bind_eq_ok.2 ⟨ret, hr, Except.bind_eq_ok.2 ⟨(), stateMatchesReturn_ok_iff.2 hst,
        Except.bind_eq_ok.2 ⟨b, hb, rfl⟩⟩⟩
  · rw [if_neg hobj]
    exact ⟨fun ⟨_, h⟩ => (nomatch h), fun h => absurd h.1 hobj⟩

theorem params_declared {j : Json} (hj : j.KeysUnique) {ps : List ParamDescriptor} :
    ((j.get? "params" = none ∧ ps = []) ∨ ∃ js, j.get? "params" = some (.arr js) ∧
        List.Forall₂ (fun pj p => ParamDescriptor.ofJson pj = .ok p) js ps) ↔
      ParamsDeclared j ps := by
  refine or_congr Iff.rfl (exists_congr fun js => and_congr_right fun hjs => ?_)
  have hu := Json.keysUnique_arr.1 (hj.get? hjs)
  constructor <;> intro hf <;> refine ((List.forall₂_and_left _ _).2 ⟨hu, hf⟩).imp ?_
  · exact fun _ _ h => (ParamDescriptor.ofJson_ok h.1).1 h.2
  · exact fun _ _ h => (ParamDescriptor.ofJson_ok h.1).2 h.2

theorem slotsOf_ok_holds {j : Json} (hj : j.KeysUnique) {hi : Bool} {s : ParamSlots}
    (h : slotsOf j hi = .ok s) :
    ∃ ps, ParamsDeclared j ps ∧ (∀ p ∈ ps, p.Fits ∧ (p.role = .input → hi = true)) ∧
      (ps.map (·.role.slot)).Nodup ∧ s.Holds ps := by
  obtain ⟨ps, hps, hfold⟩ := slotsOf_ok.1 h
  obtain ⟨hall, hnd⟩ := ParamSlots.foldlM_add_ok_iff.1 ⟨s, hfold⟩
  exact ⟨ps, (params_declared hj).1 hps, fun p hp => ⟨(hall p hp).1, (hall p hp).2.1⟩, hnd,
    ParamSlots.holds_of_foldlM hfold⟩

theorem slotsOf_ok_of_declared {j : Json} (hj : j.KeysUnique) {hi : Bool}
    {ps : List ParamDescriptor} (hps : ParamsDeclared j ps)
    (hall : ∀ p ∈ ps, p.Fits ∧ (p.role = .input → hi = true)) (hnd : (ps.map (·.role.slot)).Nodup) :
    ∃ s, slotsOf j hi = .ok s ∧ s.Holds ps := by
  have hfree : ∀ p ∈ ps, p.Fits ∧ (p.role = .input → hi = true) ∧
      ({} : ParamSlots).held p.role = none :=
    fun p hp => ⟨(hall p hp).1, (hall p hp).2, ParamSlots.held_empty _⟩
  obtain ⟨s, hfold⟩ := ParamSlots.foldlM_add_ok_iff.2 ⟨hfree, hnd⟩
  exact ⟨s, slotsOf_ok.2 ⟨ps, (params_declared hj).2 hps, hfold⟩,
    ParamSlots.holds_of_foldlM hfold⟩

theorem returnsOf_ok_iff {j : Json} (hj : j.KeysUnique) {ho hs : Bool}
    {ret : Option ReturnDescriptor} :
    returnsOf j ho hs = .ok ret ↔ ReturnDeclared j ret ∧ (∀ r, ret = some r → r.nullable = true) ∧
      (ho = true → ret ≠ none) ∧ (ret ≠ none → ho = true ∨ hs = true) := by
  rw [returnsOf_ok]
  unfold ReturnDeclared
  constructor
  · rintro (⟨hn, rfl, rfl⟩ | ⟨rj, r, hrj, hr, hnul, hc, rfl⟩)
    · exact ⟨.inl ⟨hn, rfl⟩, by simp, by simp, by simp⟩
    · exact ⟨.inr ⟨rj, r, hrj, (ReturnDescriptor.ofJson_ok (hj.get? hrj)).1 hr, rfl⟩,
        by simpa using hnul, by simp, fun _ => hc⟩
  · rintro ⟨⟨hn, rfl⟩ | ⟨rj, r, hrj, hr, rfl⟩, hnul, hout, hc⟩
    · exact .inl ⟨hn, by cases ho <;> simp_all, rfl⟩
    · exact .inr ⟨rj, r, hrj, (ReturnDescriptor.ofJson_ok (hj.get? hrj)).2 hr, hnul r rfl,
        hc (by simp), rfl⟩

/-- Checking a declaration succeeds exactly when it is valid for the caller's handles. -/
theorem parse_ok_iff_valid {j : Json} (hj : j.KeysUnique) (hasInput hasOutput : Bool) :
    (∃ d, parse j hasInput hasOutput = .ok d) ↔ ∃ ps ret, Valid j hasInput hasOutput ps ret := by
  rw [parse_ok_iff]
  constructor
  · rintro ⟨hobj, hpath, s, hs, hinput, ret, hr, hstate, hbulk⟩
    obtain ⟨ps, hps, hall, hnd, hheld⟩ := slotsOf_ok_holds hj hs
    obtain ⟨hret, hnul, hout, hcar⟩ := (returnsOf_ok_iff hj).1 hr
    exact ⟨ps, ret, hobj, pathOf_ok.1 hpath, hps, fun p hp => (hall p hp).1, hnd,
      ⟨fun ⟨p, hp, hrole⟩ => (hall p hp).2 hrole, hheld.input_check.1 hinput⟩, hret, hnul, hout,
      fun h => (hcar h).imp_right hheld.endpointState_isSome.1,
      fun p hp hrole => hstate p (hheld.endpointState_eq.2 ⟨hp, hrole⟩), hbulk⟩
  · rintro ⟨ps, ret, hv⟩
    obtain ⟨s, hs, hheld⟩ := slotsOf_ok_of_declared hj hv.params
      (fun p hp => ⟨hv.fits p hp, fun hrole => hv.input.1 ⟨p, hp, hrole⟩⟩) hv.once
    refine ⟨hv.isObject, pathOf_ok.2 hv.path, s, hs, hheld.input_check.2 hv.input.2, ret,
      (returnsOf_ok_iff hj).2 ⟨hv.returns, hv.nullable, hv.output,
        fun h => (hv.carried h).imp_right hheld.endpointState_isSome.2⟩, fun p h => ?_, hv.bulk⟩
    obtain ⟨hp, hrole⟩ := hheld.endpointState_eq.1 h
    exact hv.state p hp hrole

theorem parse_ok_iff_valid_documents :
    (Json.obj [("endpoint", .str "/ds/items.sjs"),
      ("return", .obj [("datatype", .str "jsonDocument"), ("nullable", .bool true)])]).KeysUnique ∧
    ((∃ d, parse (.obj [("endpoint", .str "/ds/items.sjs"),
      ("return", .obj [("datatype", .str "jsonDocument"), ("nullable", .bool true)])]) false true =
        .ok d) ↔
      ∃ ps ret, Valid (.obj [("endpoint", .str "/ds/items.sjs"),
        ("return", .obj [("datatype", .str "jsonDocument"), ("nullable", .bool true)])])
        false true ps ret) := by
  have hj : (Json.obj [("endpoint", .str "/ds/items.sjs"), ("return",
      .obj [("datatype", .str "jsonDocument"), ("nullable", .bool true)])]).KeysUnique := by
    simp
  exact ⟨hj, parse_ok_iff_valid hj false true⟩

end Declaration

end EndpointCall
