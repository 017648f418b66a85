import EndpointCall.Proofs.DeclarationCompare
import Mathlib.Data.List.Perm.Basic
/-! Comparing two declarations in both directions. -/
namespace EndpointCall

def FieldChange.swap (f : FieldChange) : FieldChange := ⟨f.field, f.base, f.custom⟩

/-- A difference read from the other side, with the custom and the base declaration exchanged. -/
def Difference.swap : Difference → Difference
  | .endpointPath base custom => .endpointPath custom base
  | .missingParam r => .extraParam r
  | .extraParam r => .missingParam r
  | .changedParam r cs => .changedParam r (cs.map FieldChange.swap)
  | .returnPresence base => .returnPresence !base
  | .changedReturn cs => .changedReturn (cs.map FieldChange.swap)

theorem ValueSpec.changes_swap (c b : ValueSpec) :
    b.changes c = (c.changes b).map FieldChange.swap := by
  obtain ⟨dt, m, n⟩ := c
  obtain ⟨dt', m', n'⟩ := b
  by_cases hd : dt = dt' <;> by_cases hm : m = m' <;> by_cases hn : n = n' <;>
    simp [changes, hd, hm, hn, eq_comm, FieldChange.swap]

namespace Declaration

def unmatched (k : ParamRole → Difference) (d e : Declaration) : List Difference :=
  (d.params.filter fun p => !e.params.any fun q => q.role == p.role).map fun p => k p.role

def paramChange (r : ParamRole) (cp bp : ParamDescriptor) : List Difference :=
  match cp.spec.changes bp.spec with
  | [] => []
  | cs => [.changedParam r cs]

def changedParams (c b : Declaration) : List Difference :=
  b.params.flatMap fun bp =>
    (c.params.find? fun p => p.role == bp.role).toList.flatMap fun cp => paramChange bp.role cp bp

theorem paramChange_swap (r : ParamRole) (cp bp : ParamDescriptor) :
    paramChange r bp cp = (paramChange r cp bp).map Difference.swap := by
  unfold paramChange
  rw [ValueSpec.changes_swap]
  split <;> split <;> simp_all [Difference.swap]

theorem baseParamDifferences_eq (c : Declaration) (bp : ParamDescriptor) :
    c.baseParamDifferences bp =
      (if !c.params.any (fun q => q.role == bp.role) then [.missingParam bp.role] else []) ++
      (c.params.find? fun p => p.role == bp.role).toList.flatMap fun cp =>
        paramChange bp.role cp bp := by
  unfold baseParamDifferences
  rw [← List.isSome_find?]
  cases c.params.find? fun p => p.role == bp.role with
  | none => rfl
  | some cp =>
    simp only [Option.isSome_some, Bool.not_true, Bool.false_eq_true, if_false,
      Option.toList_some, List.flatMap_singleton, List.nil_append]
    rfl

theorem flatMap_missing_eq_unmatched (c b : Declaration) :
    (b.params.flatMap fun bp =>
      if !c.params.any (fun q => q.role == bp.role) then [Difference.missingParam bp.role]
      else []) = unmatched .missingParam b c := by
  unfold unmatched
  induction b.params with
  | nil => rfl
  | cons p ps ih =>
    cases h : c.params.any fun q => q.role == p.role <;>
      simp only [List.flatMap_cons, List.filter_cons, h, ih, Bool.not_true, Bool.not_false,
        Bool.false_eq_true, if_true, if_false, List.nil_append, List.map_cons,
        List.singleton_append]

theorem baseParams_perm (c b : Declaration) :
    (b.params.flatMap c.baseParamDifferences).Perm
      (unmatched .missingParam b c ++ changedParams c b) := by
  rw [show c.baseParamDifferences = _ from funext (baseParamDifferences_eq c),
    ← flatMap_missing_eq_unmatched]
  exact (List.flatMap_append_perm _ _ _).symm

theorem unmatched_swap (k : ParamRole → Difference) (d e : Declaration) :
    (unmatched k d e).map Difference.swap = unmatched (Difference.swap ∘ k) d e := by
  simp [unmatched, List.map_map]

def wireSlots : List ParamRole := [.endpointState, .session, .constants .endpointConstants, .input]

theorem params_flatMap {β : Type} (d : Declaration) (f : ParamDescriptor → List β) :
    d.params.flatMap f = wireSlots.flatMap fun r => (d.held r).toList.flatMap f := by
  simp only [params, List.filterMap_eq_flatMap_toList, List.flatMap_assoc]
  rfl

theorem Placed.find?_eq_filter {d : Declaration} (hd : d.Placed) (r : ParamRole) :
    d.params.find? (fun p => p.role == r) = (d.held r).filter (fun p => p.role == r) := by
  apply Option.ext
  intro q
  rw [hd.find?_role, Option.filter_eq_some_iff]
  constructor
  · rintro ⟨hq, rfl⟩
    exact ⟨hd.held_role hq, by simp⟩
  · rintro ⟨hq, hr⟩
    exact ⟨mem_params.2 ⟨r, hq⟩, by simpa using hr⟩

def slotChange (x y : Option ParamDescriptor) : List Difference :=
  y.toList.flatMap fun bp => (x.filter fun p => p.role == bp.role).toList.flatMap fun cp =>
    paramChange bp.role cp bp

theorem slotChange_swap (x y : Option ParamDescriptor) :
    (slotChange x y).map Difference.swap = slotChange y x := by
  rcases x with _ | cp <;> rcases y with _ | bp
  · rfl
  · simp [slotChange]
  · simp [slotChange]
  · by_cases h : cp.role = bp.role
    · simp [slotChange, Option.filter_some, h, paramChange_swap bp.role cp bp]
    · simp [slotChange, Option.filter_some, h, Ne.symm h]

theorem changedParams_eq_slots {c b : Declaration} (hc : c.Placed) (hb : b.Placed) :
    changedParams c b = wireSlots.flatMap fun r => slotChange (c.held r) (b.held r) := by
  unfold changedParams
  rw [params_flatMap]
  refine List.flatMap_congr fun r _ => ?_
  rcases h : b.held r with _ | bp
  · rfl
  · simp only [slotChange, Option.toList_some, List.flatMap_singleton, hc.find?_eq_filter,
      c.held_congr (hb r bp h)]

theorem changedParams_swap {c b : Declaration} (hc : c.Placed) (hb : b.Placed) :
    (changedParams c b).map Difference.swap = changedParams b c := by
  rw [changedParams_eq_slots hc hb, changedParams_eq_slots hb hc, List.map_flatMap]
  exact List.flatMap_congr fun r _ => slotChange_swap _ _

theorem returnDifferences_swap (cr br : Option ReturnDescriptor) :
    returnDifferences br cr = (returnDifferences cr br).map Difference.swap := by
  rcases cr with _ | cr <;> rcases br with _ | br
  · rfl
  · rfl
  · rfl
  · simp only [returnDifferences]
    rw [ValueSpec.changes_swap]
    split <;> split <;> simp_all [Difference.swap]

theorem path_swap (c b : Declaration) :
    (if b.path ≠ c.path then [Difference.endpointPath c.path b.path] else []) =
      (if c.path ≠ b.path then [Difference.endpointPath b.path c.path] else []).map
        Difference.swap := by
  by_cases h : c.path = b.path
  · simp [h]
  · simp [h, Ne.symm h, Difference.swap]

theorem compare_eq (c b : Declaration) :
    c.compare b = (if c.path ≠ b.path then [.endpointPath b.path c.path] else []) ++
      (b.params.flatMap c.baseParamDifferences ++ unmatched .extraParam c b) ++
      returnDifferences c.returns b.returns := by
  simp only [compare, List.append_assoc]
  rfl

theorem paramDifferences_perm_swap {c b : Declaration} (hc : c.Placed) (hb : b.Placed) :
    (c.params.flatMap b.baseParamDifferences ++ unmatched .extraParam b c).Perm
      ((b.params.flatMap c.baseParamDifferences ++ unmatched .extraParam c b).map
        Difference.swap) := by
  have hmissing : (unmatched .extraParam c b).map Difference.swap = unmatched .missingParam c b :=
    unmatched_swap _ _ _
  have hextra : (unmatched .missingParam b c).map Difference.swap = unmatched .extraParam b c :=
    unmatched_swap _ _ _
  have hbase := (baseParams_perm c b).map Difference.swap
  rw [List.map_append, hextra, changedParams_swap hc hb] at hbase
  rw [List.map_append, hmissing]
  calc c.params.flatMap b.baseParamDifferences ++ unmatched .extraParam b c
      List.Perm _
          ((unmatched .missingParam c b ++ changedParams b c) ++ unmatched .extraParam b c) :=
        (baseParams_perm b c).append_right _
      List.Perm _
          (unmatched .extraParam b c ++ (unmatched .missingParam c b ++ changedParams b c)) :=
        List.perm_append_comm
      List.Perm _
          (unmatched .extraParam b c ++ (changedParams b c ++ unmatched .missingParam c b)) :=
        List.perm_append_comm.append_left _
      List.Perm _ _ := by
        rw [← List.append_assoc]
        exact hbase.symm.append_right _

theorem compare_perm_swap {c b : Declaration} (hc : c.Placed) (hb : b.Placed) :
    (b.compare c).Perm ((c.compare b).map Difference.swap) := by
  rw [compare_eq b c, compare_eq c b, List.map_append, List.map_append, ← path_swap,
    ← returnDifferences_swap]
  exact ((paramDifferences_perm_swap hc hb).append_left _).append_right _

/-- Comparing two declarations the other way round swaps every difference. -/
theorem compare_reversed_is_swapped {jc jb : Json} {hic hoc hib hob : Bool} {c b : Declaration}
    (hc : parse jc hic hoc = .ok c) (hb : parse jb hib hob = .ok b) :
    (b.compare c).Perm ((c.compare b).map Difference.swap) ∧
    (b.compare c).length = (c.compare b).length ∧
    (b.compare c = [] ↔ c.compare b = []) := by
  have hperm := compare_perm_swap (parse_placed hc) (parse_placed hb)
  have hlength : (b.compare c).length = (c.compare b).length := by
    rw [hperm.length_eq, List.length_map]
  exact ⟨hperm, hlength, by rw [← List.length_eq_zero_iff, hlength, List.length_eq_zero_iff]⟩

theorem compare_reversed_custom_process :
    ∃ c b, parse (.obj [("endpoint", .str "/custom/process.sjs"),
        ("params", .arr [
          .obj [("name", .str "input"), ("datatype", .str "textDocument"),
            ("multiple", .bool true), ("nullable", .bool true)],
          .obj [("name", .str "endpointConstants"), ("datatype", .str "object")]]),
        ("return", .obj [("datatype", .str "jsonDocument"), ("multiple", .bool true),
          ("nullable", .bool true)])]) true true = .ok c ∧
      parse (.obj [("endpoint", .str "/svc/process.sjs"),
        ("params", .arr [
          .obj [("name", .str "endpointState"), ("datatype", .str "jsonDocument"),
            ("nullable", .bool true)],
          .obj [("name", .str "input"), ("datatype", .str "jsonDocument"),
            ("multiple", .bool true), ("nullable", .bool true)]]),
        ("return", .obj [("datatype", .str "jsonDocument"), ("multiple", .bool true),
          ("nullable", .bool true)])]) true true = .ok b ∧
      (b.compare c).Perm ((c.compare b).map Difference.swap) ∧
      (b.compare c).length = (c.compare b).length ∧
      (b.compare c = [] ↔ c.compare b = []) := by
  refine ⟨?c, ?b, ?custom, ?base, compare_reversed_is_swapped ?custom ?base⟩
  case custom => rfl
  case base => rfl

end Declaration
end EndpointCall
