import EndpointCall.Proofs.DeclarationValid
import EndpointCall.Declaration.Compare
import Mathlib.Data.List.Nodup
import Mathlib.Data.List.Flatten
/-! When a custom declaration is called like its base. -/
namespace EndpointCall

theorem ParamRole.name_inj {r r' : ParamRole} : r.name = r'.name ↔ r = r' := by
  refine ⟨fun h => ?_, congrArg _⟩
  have h' : ParamRole.parse r.name = .ok r' := ParamRole.parse_ok.2 h.symm
  rw [ParamRole.parse_ok.2 rfl] at h'
  cases h'
  rfl

@[simp] theorem ParamRole.beq_eq_true {r r' : ParamRole} : (r == r') = true ↔ r = r' := by
  rcases r with _ | _ | _ | ⟨_ | _⟩ <;> rcases r' with _ | _ | _ | ⟨_ | _⟩ <;> decide

theorem DataType.ofName?_name (d : DataType) : DataType.ofName? d.name = some d := by
  cases d <;> decide

theorem DataType.name_inj {d d' : DataType} : d.name = d'.name ↔ d = d' := by
  refine ⟨fun h => ?_, congrArg _⟩
  have h' := DataType.ofName?_name d
  rw [h, DataType.ofName?_name] at h'
  exact (Option.some.inj h').symm

def ValueSpec.shape (v : ValueSpec) : String × Bool × Bool := (v.dataType.name, v.multiple, v.nullable)

theorem ValueSpec.shape_inj {v v' : ValueSpec} : v.shape = v'.shape ↔ v = v' := by
  obtain ⟨dt, m, n⟩ := v
  obtain ⟨dt', m', n'⟩ := v'
  simp [shape, DataType.name_inj]

theorem ValueSpec.changes_eq_nil {c b : ValueSpec} : c.changes b = [] ↔ c = b := by
  obtain ⟨dt, m, n⟩ := c
  obtain ⟨dt', m', n'⟩ := b
  simp [changes]

def Difference.paramName? : Difference → Option String
  | .missingParam r | .extraParam r | .changedParam r _ => some r.name
  | _ => none

namespace Declaration

def held (d : Declaration) : ParamRole → Option ParamDescriptor
  | .endpointState => d.endpointState
  | .input => d.input
  | .session => d.session
  | .constants _ => d.constants

/-- Every slot of the declaration holds a parameter of its own role. -/
def Placed (d : Declaration) : Prop :=
  ∀ r p, d.held r = some p → p.role.slot = r.slot

theorem held_congr (d : Declaration) {r r' : ParamRole} (h : r.slot = r'.slot) :
    d.held r = d.held r' := by
  rcases r with _ | _ | _ | ⟨_ | _⟩ <;> rcases r' with _ | _ | _ | ⟨_ | _⟩ <;>
    simp_all [ParamRole.slot, held]

theorem mem_params {d : Declaration} {p : ParamDescriptor} :
    p ∈ d.params ↔ ∃ r, d.held r = some p := by
  simp only [params, List.mem_filterMap, List.mem_cons, List.not_mem_nil, id, or_false,
    exists_eq_or_imp, exists_eq_left]
  constructor
  · rintro (h | h | h | h)
    exacts [⟨.endpointState, h⟩, ⟨.session, h⟩, ⟨.constants .endpointConstants, h⟩, ⟨.input, h⟩]
  · rintro ⟨r, h⟩
    rcases r with _ | _ | _ | ⟨_ | _⟩ <;> simp_all [held]

theorem parse_slots {j : Json} {hi ho : Bool} {d : Declaration} (h : parse j hi ho = .ok d) :
    ∃ (ps : List ParamDescriptor) (s : ParamSlots), ps.foldlM (ParamSlots.add hi) {} = .ok s ∧
      (s.input.isNone && hi) = false ∧ ∀ r, d.held r = s.held r := by
  unfold parse at h
  by_cases hobj : j.isObject = true
  swap
  · rw [if_neg hobj] at h
    nomatch h
  rw [if_pos hobj] at h
  obtain ⟨path, -, h⟩ := Except.bind_eq_ok.1 h
  obtain ⟨s, hs, h⟩ := Except.bind_eq_ok.1 h
  obtain ⟨ps, -, hfold⟩ := slotsOf_ok.1 hs
  split at h
  · cases h
  rename_i hin
  obtain ⟨ret, -, h⟩ := Except.bind_eq_ok.1 h
  obtain ⟨-, -, h⟩ := Except.bind_eq_ok.1 h
  obtain ⟨b, -, h⟩ := Except.bind_eq_ok.1 h
  cases Except.pure_eq_ok.1 h
  refine ⟨ps, s, hfold, by simpa using hin, fun r => ?_⟩
  cases r <;> rfl

theorem parse_placed {j : Json} {hi ho : Bool} {d : Declaration} (h : parse j hi ho = .ok d) :
    d.Placed := by
  obtain ⟨ps, s, hfold, -, hd⟩ := parse_slots h
  intro r p hp
  rw [hd] at hp
  exact ((ParamSlots.holds_of_foldlM hfold r p).1 hp).2

section Placed

variable {d : Declaration} (hd : d.Placed)
include hd

theorem Placed.held_role {p : ParamDescriptor} (hp : p ∈ d.params) : d.held p.role = some p := by
  obtain ⟨r, hr⟩ := mem_params.1 hp
  rw [d.held_congr (hd r p hr), hr]

theorem Placed.eq_of_role {p q : ParamDescriptor} (hp : p ∈ d.params) (hq : q ∈ d.params)
    (h : p.role = q.role) : p = q := by
  have hp' := hd.held_role hp
  rw [h, hd.held_role hq] at hp'
  exact (Option.some.inj hp').symm

theorem Placed.eq_of_name {p q : ParamDescriptor} (hp : p ∈ d.params) (hq : q ∈ d.params)
    (h : p.name = q.name) : p = q :=
  hd.eq_of_role hp hq (ParamRole.name_inj.1 h)

theorem Placed.find?_role {r : ParamRole} {q : ParamDescriptor} :
    d.params.find? (fun p => p.role == r) = some q ↔ q ∈ d.params ∧ q.role = r := by
  constructor
  · intro h
    exact ⟨List.mem_of_find?_eq_some h, by simpa using List.find?_some h⟩
  · rintro ⟨hq, rfl⟩
    have hfind : (d.params.find? fun p => p.role == q.role).isSome := by
      rw [List.find?_isSome]
      exact ⟨q, hq, by simp⟩
    obtain ⟨p, hp⟩ := Option.isSome_iff_exists.1 hfind
    rw [hp, hd.eq_of_role (List.mem_of_find?_eq_some hp) hq (by simpa using List.find?_some hp)]

theorem Placed.names_nodup : (d.params.map (·.name)).Nodup := by
  have hs : ∀ p, d.endpointState = some p → p.role.slot = .endpointState := hd .endpointState
  have hi : ∀ p, d.input = some p → p.role.slot = .input := hd .input
  have hse : ∀ p, d.session = some p → p.role.slot = .session := hd .session
  have hc : ∀ p, d.constants = some p → p.role.slot = .constants .endpointConstants :=
    hd (.constants .endpointConstants)
  have hslots : (d.params.map (·.role.slot)).Nodup := by
    unfold params
    rcases d with ⟨_, _ | s, _ | i, _ | se, _ | c, _, _, _⟩ <;> simp_all
  rw [List.Nodup, List.pairwise_map] at hslots ⊢
  exact hslots.imp fun hne hn => hne (by rw [ParamRole.name_inj.1 hn])

end Placed

theorem baseParamDifferences_eq_nil {c : Declaration} (hc : c.Placed) {bp : ParamDescriptor} :
    c.baseParamDifferences bp = [] ↔ ∃ cp ∈ c.params, cp.role = bp.role ∧ cp.spec = bp.spec := by
  unfold baseParamDifferences
  split
  · rename_i hn
    simp only [reduceCtorEq, false_iff, not_exists, not_and]
    intro cp hcp hrole _
    rw [List.find?_eq_none] at hn
    exact hn cp hcp (by simp [hrole])
  · rename_i cp hcp
    obtain ⟨hmem, hrole⟩ := (hc.find?_role).1 hcp
    have hiff : (∃ cp' ∈ c.params, cp'.role = bp.role ∧ cp'.spec = bp.spec) ↔ cp.spec = bp.spec :=
      ⟨fun ⟨cp', hcp', hr', hs'⟩ => hc.eq_of_role hcp' hmem (hr'.trans hrole.symm) ▸ hs',
        fun hs => ⟨cp, hmem, hrole, hs⟩⟩
    rw [hiff, ← ValueSpec.changes_eq_nil]
    split <;> simp_all

theorem baseParamDifferences_names (c : Declaration) (bp : ParamDescriptor) :
    ((c.baseParamDifferences bp).filterMap Difference.paramName?).Sublist [bp.name] := by
  unfold baseParamDifferences
  split
  · exact List.Sublist.refl _
  · split
    · exact List.nil_sublist _
    · exact List.Sublist.refl _

theorem returnDifferences_eq_nil {cr br : Option ReturnDescriptor} :
    returnDifferences cr br = [] ↔ cr.map (·.spec.shape) = br.map (·.spec.shape) := by
  rcases cr with _ | cr <;> rcases br with _ | br
  · simp [returnDifferences]
  · simp [returnDifferences]
  · simp [returnDifferences]
  · simp only [returnDifferences, Option.map_some, Option.some.injEq, ValueSpec.shape_inj,
      ← ValueSpec.changes_eq_nil]
    split <;> simp_all

theorem params_match_iff {c b : Declaration} (hc : c.Placed) :
    ((∀ bp ∈ b.params, ∃ cp ∈ c.params, cp.role = bp.role ∧ cp.spec = bp.spec) ∧
      ∀ cp ∈ c.params, ∃ p ∈ b.params, p.role = cp.role) ↔
    (∀ n, n ∈ c.params.map (·.name) ↔ n ∈ b.params.map (·.name)) ∧
      ∀ p ∈ c.params, ∀ q ∈ b.params, p.name = q.name → p.spec.shape = q.spec.shape := by
  simp only [List.mem_map]
  constructor
  · rintro ⟨hbase, hcustom⟩
    refine ⟨fun n => ⟨?_, ?_⟩, fun p hp q hq hn => ?_⟩
    · rintro ⟨cp, hcp, rfl⟩
      obtain ⟨p, hp, hr⟩ := hcustom cp hcp
      exact ⟨p, hp, congrArg ParamRole.name hr⟩
    · rintro ⟨bp, hbp, rfl⟩
      obtain ⟨cp, hcp, hr, -⟩ := hbase bp hbp
      exact ⟨cp, hcp, congrArg ParamRole.name hr⟩
    · obtain ⟨cp, hcp, hr, hs⟩ := hbase q hq
      have hrole : cp.role = p.role := hr.trans (ParamRole.name_inj.1 hn).symm
      rw [← hc.eq_of_role hcp hp hrole, hs]
  · rintro ⟨hnames, hshape⟩
    refine ⟨fun bp hbp => ?_, fun cp hcp => ?_⟩
    · obtain ⟨cp, hcp, hn⟩ := (hnames bp.name).2 ⟨bp, hbp, rfl⟩
      exact ⟨cp, hcp, ParamRole.name_inj.1 hn, ValueSpec.shape_inj.1 (hshape cp hcp bp hbp hn)⟩
    · obtain ⟨p, hp, hn⟩ := (hnames cp.name).1 ⟨cp, hcp, rfl⟩
      exact ⟨p, hp, ParamRole.name_inj.1 hn⟩

/-- A custom declaration is called like its base. -/
structure CalledAlike (c b : Declaration) : Prop where
  path : c.path = b.path
  names : ∀ n, n ∈ c.params.map (·.name) ↔ n ∈ b.params.map (·.name)
  shapes : ∀ p ∈ c.params, ∀ q ∈ b.params, p.name = q.name → p.spec.shape = q.spec.shape
  returns : c.returns.map (·.spec.shape) = b.returns.map (·.spec.shape)

theorem CalledAlike.refl {d : Declaration} (hd : d.Placed) : CalledAlike d d :=
  ⟨rfl, fun _ => Iff.rfl, fun _ hp _ hq hn => by rw [hd.eq_of_name hp hq hn], rfl⟩

theorem compare_eq_nil_iff {c b : Declaration} (hc : c.Placed) :
    c.compare b = [] ↔ CalledAlike c b := by
  have hpath : (if c.path ≠ b.path then [Difference.endpointPath b.path c.path] else []) = [] ↔
      c.path = b.path := by
    by_cases h : c.path = b.path <;> simp [h]
  simp only [compare, List.append_eq_nil_iff, List.flatMap_eq_nil_iff, List.map_eq_nil_iff,
    List.filter_eq_nil_iff, baseParamDifferences_eq_nil hc, returnDifferences_eq_nil, hpath,
    Bool.not_eq_true', Bool.not_eq_false, List.any_eq_true, ParamRole.beq_eq_true]
  constructor
  · rintro ⟨⟨⟨hpath, hbase⟩, hextra⟩, hret⟩
    obtain ⟨hnames, hshapes⟩ := (params_match_iff hc).1 ⟨hbase, hextra⟩
    exact ⟨hpath, hnames, hshapes, hret⟩
  · rintro ⟨hpath, hnames, hshapes, hret⟩
    obtain ⟨hbase, hextra⟩ := (params_match_iff hc).2 ⟨hnames, hshapes⟩
    exact ⟨⟨⟨hpath, hbase⟩, hextra⟩, hret⟩

theorem path_names (c b : Declaration) :
    (if c.path ≠ b.path then [Difference.endpointPath b.path c.path] else []).filterMap
      Difference.paramName? = [] := by
  split <;> rfl

theorem returnDifferences_names (cr br : Option ReturnDescriptor) :
    (returnDifferences cr br).filterMap Difference.paramName? = [] := by
  unfold returnDifferences
  split
  · split <;> rfl
  all_goals rfl

theorem compare_names_nodup {c b : Declaration} (hc : c.Placed) (hb : b.Placed) :
    ((c.compare b).filterMap Difference.paramName?).Nodup := by
  have hextra :
      (Difference.paramName? ∘ fun cp : ParamDescriptor => Difference.extraParam cp.role) =
        some ∘ (·.name) := rfl
  simp only [compare, List.filterMap_append, List.filterMap_flatMap, List.filterMap_map, hextra,
    List.filterMap_eq_map, path_names, returnDifferences_names, List.nil_append, List.append_nil]
  have hbase : (b.params.flatMap fun bp =>
      (c.baseParamDifferences bp).filterMap Difference.paramName?).Sublist
        (b.params.map (·.name)) := by
    rw [List.map_eq_flatMap]
    exact List.Sublist.flatMap_right _ fun bp _ => baseParamDifferences_names c bp
  refine List.Nodup.append (hb.names_nodup.sublist hbase)
    (hc.names_nodup.sublist ((List.filter_sublist).map _)) ?_
  intro n hn hn'
  obtain ⟨bp, hbp, rfl⟩ := List.mem_map.1 (hbase.subset hn)
  obtain ⟨cp, hcp, hname⟩ := List.mem_map.1 hn'
  simp only [List.mem_filter, Bool.not_eq_true', List.any_eq_false, ParamRole.beq_eq_true] at hcp
  exact hcp.2 bp hbp (ParamRole.name_inj.1 hname.symm)

/-- The comparison reports nothing exactly when the custom endpoint is called like the base. -/
theorem compare_eq_nil_iff_called_alike {jc jb : Json} {hic hoc hib hob : Bool}
    {c b : Declaration} (hc : parse jc hic hoc = .ok c) (hb : parse jb hib hob = .ok b) :
    (c.compare b = [] ↔ CalledAlike c b) ∧
    ((c.compare b).filterMap Difference.paramName?).Nodup ∧
    (∀ n m, compare { c with batchSize := n } { b with batchSize := m } = c.compare b) ∧
    c.compare c = [] := by
  have hcp := parse_placed hc
  have hbp := parse_placed hb
  exact ⟨compare_eq_nil_iff hcp, compare_names_nodup hcp hbp, fun _ _ => rfl,
    (compare_eq_nil_iff hcp).2 (CalledAlike.refl hcp)⟩

theorem compare_custom_process :
    ∃ c b, parse (.obj [("endpoint", .str "/custom/process.sjs"),
        ("params", .arr [
          .obj [("name", .str "input"), ("datatype", .str "textDocument"),
            ("multiple", .bool true), ("nullable", .bool true)],
          .obj [("name", .str "endpointConstants"), ("datatype", .str "object")]]),
        ("return", .obj [("datatype", .str "jsonDocument"), ("multiple", .bool true),
          ("nullable", .bool true)])]) true true = .ok c ∧
      parse (.obj [("endpoint", .str "/svc/process.sjs"),
        ("params", .arr [
          .obj [("name", .str "endpointState"), ("datatype", .str "jsonDocument"),
            ("nullable", .bool true)],
          .obj [("name", .str "input"), ("datatype", .str "jsonDocument"),
            ("multiple", .bool true), ("nullable", .bool true)]]),
        ("return", .obj [("datatype", .str "jsonDocument"), ("multiple", .bool true),
          ("nullable", .bool true)])]) true true = .ok b ∧
      (c.compare b = [] ↔ CalledAlike c b) ∧
      ((c.compare b).filterMap Difference.paramName?).Nodup ∧
      (∀ n m, compare { c with batchSize := n } { b with batchSize := m } = c.compare b) ∧
      c.compare c = [] := by
  refine ⟨?c, ?b, ?custom, ?base, compare_eq_nil_iff_called_alike ?custom ?base⟩
  case custom => rfl
  case base => rfl

end Declaration
end EndpointCall
