import EndpointCall.Proofs.DeclarationCompare
import EndpointCall.Proofs.CallState
/-! Building the request of a call from a context and an input batch. -/
namespace EndpointCall

theorem Except.mapM_ok_iff {ε α β : Type} (f : α → Except ε β) (xs : List α) (ys : List β) :
    xs.mapM f = .ok ys ↔ List.Forall₂ (fun x y => f x = .ok y) xs ys := by
  induction xs generalizing ys with
  | nil => cases ys <;> simp [pure, Except.pure]
  | cons x xs ih =>
    simp only [List.mapM_cons, Except.bind_eq_ok, Except.pure_eq_ok, ih]
    cases ys with
    | nil => simp
    | cons y ys => simp [List.forall₂_cons]

variable {α β : Type}

def Handle.Encodes (h : Handle α) (f : Format) (xs : List α) (ds : List Document) : Prop :=
  List.Forall₂ (fun x d => d.format = f ∧ h.encode x f = .ok d.bytes) xs ds

theorem Handle.encode_documents_ok (h : Handle α) (f : Format) (xs : List α)
    (ds : List Document) :
    (xs.mapM fun x => do
        let bs ← h.encode x f
        pure (⟨f, bs⟩ : Document)) = .ok ds ↔ h.Encodes f xs ds := by
  rw [Except.mapM_ok_iff]
  constructor <;> refine List.Forall₂.imp fun x d hd => ?_
  · obtain ⟨bs, hbs, hd⟩ := Except.bind_eq_ok.1 hd
    cases Except.pure_eq_ok.1 hd
    exact ⟨rfl, hbs⟩
  · obtain ⟨d, bs⟩ := d
    obtain ⟨rfl, hbs⟩ := hd
    exact Except.bind_eq_ok.2 ⟨bs, hbs, rfl⟩

/-- The field a request carries for a declared parameter. -/
def fieldFor (ctx : CallContext) (batch : Option (List Document)) (p : ParamDescriptor) :
    Option CallField :=
  match p.role with
  | .endpointState =>
    ctx.endpointState.map fun s => ⟨p.name, p.nullable, .single (some ⟨p.format, s⟩)⟩
  | .constants _ => ctx.constants.map fun k => ⟨p.name, p.nullable, .single (some ⟨p.format, k⟩)⟩
  | .input => batch.map fun ds => ⟨p.name, p.nullable, .multiple ds⟩
  | .session => none

namespace Declaration

theorem params_filterMap {γ : Type} (d : Declaration) (g : ParamDescriptor → Option γ) :
    d.params.filterMap g = (d.endpointState.bind g).toList ++ (d.session.bind g).toList ++
      (d.constants.bind g).toList ++ (d.input.bind g).toList := by
  simp [params, List.filterMap_eq_flatMap_toList, Option.toList_bind, Function.comp_def]

section Placed

variable {d : Declaration} (hd : d.Placed)
include hd

theorem Placed.role_of_held {r : ParamRole} (hr : ∀ n, r ≠ .constants n) {p : ParamDescriptor}
    (h : d.held r = some p) : p.role = r :=
  (ParamRole.slot_eq_iff hr).1 (hd r p h)

theorem Placed.constants_role {p : ParamDescriptor} (h : d.constants = some p) :
    ∃ n, p.role = .constants n := by
  have hslot : p.role.slot = .constants .endpointConstants := hd (.constants .endpointConstants) p h
  rcases hrole : p.role with _ | _ | _ | n
  · simp [hrole, ParamRole.slot] at hslot
  · simp [hrole, ParamRole.slot] at hslot
  · simp [hrole, ParamRole.slot] at hslot
  · exact ⟨n, rfl⟩

end Placed

theorem parse_input {j : Json} {hasInput ho : Bool} {d : Declaration}
    (h : parse j hasInput ho = .ok d) : d.input.isSome = hasInput := by
  obtain ⟨ps, s, hfold, hcheck, hd⟩ := parse_slots h
  rw [show d.input = s.input from hd .input]
  cases hasInput
  · rcases hs : s.input with _ | p
    · rfl
    · obtain ⟨hp, hslot⟩ := (ParamSlots.holds_of_foldlM hfold .input p).1 hs
      have hrole : p.role = .input :=
        (ParamRole.slot_eq_iff (fun _ h => nomatch h : ∀ n, ParamRole.input ≠ .constants n)).1 hslot
      have hadd := ((ParamSlots.foldlM_add_ok_iff.1 ⟨s, hfold⟩).1 p hp).2.1 hrole
      cases hadd
  · simpa using hcheck

end Declaration

namespace Caller

def SendsBatch (c : Caller α β) (input : Option (List α)) (batch : Option (List Document)) :
    Prop :=
  match c.decl.input, input with
  | some p, some xs => ∃ h ds, c.input = some h ∧ h.Encodes p.format xs ds ∧ batch = some ds
  | _, _ => batch = none

/-- The contexts and input batches a caller builds requests from. -/
structure Admits (c : Caller α β) (ctx : CallContext) (input : Option (List α)) : Prop where
  state : ctx.endpointState.isSome → c.decl.endpointState.isSome
  constants : ctx.constants.isSome → c.decl.constants.isSome
  constantsRequired : ∀ p, c.decl.constants = some p → ctx.constants.isSome ∨ p.nullable
  inputDeclared : ∀ xs, input = some xs → xs ≠ [] → c.decl.input.isSome
  encodes : ∀ p xs, c.decl.input = some p → input = some xs →
    ∃ h ds, c.input = some h ∧ h.Encodes p.format xs ds
  session : ∀ p, c.decl.session = some p → ctx.session.isSome ∨ p.nullable
  sessionDeclared : ctx.session.isSome → c.decl.session.isSome

variable {c : Caller α β} {ctx : CallContext} {input : Option (List α)}

theorem stateField_ok_iff :
    (∃ fs, c.stateField ctx = .ok fs) ↔
      (ctx.endpointState.isSome → c.decl.endpointState.isSome) := by
  unfold stateField
  split <;> simp_all

theorem constantsField_ok_iff :
    (∃ fs, c.constantsField ctx = .ok fs) ↔
      (ctx.constants.isSome → c.decl.constants.isSome) ∧
        ∀ p, c.decl.constants = some p → ctx.constants.isSome ∨ p.nullable := by
  unfold constantsField
  rcases hp : c.decl.constants with _ | p <;> rcases hk : ctx.constants with _ | k
  · simp
  · simp
  · by_cases hn : p.nullable <;> simp [hn]
  · simp

theorem inputField_ok_iff :
    (∃ fs, c.inputField input = .ok fs) ↔
      (∀ xs, input = some xs → xs ≠ [] → c.decl.input.isSome) ∧
        ∀ p xs, c.decl.input = some p → input = some xs →
          ∃ h ds, c.input = some h ∧ h.Encodes p.format xs ds := by
  unfold inputField
  rcases hp : c.decl.input with _ | p <;> rcases hx : input with _ | xs
  · simp
  · by_cases he : xs = [] <;> simp [he]
  · simp
  · rcases hh : c.input with _ | h
    · simp
    · simp only [Except.bind_eq_ok, Handle.encode_documents_ok, Except.pure_eq_ok]
      simp

theorem sessionBinding_ok_iff :
    (∃ b, c.sessionBinding ctx = .ok b) ↔
      (∀ p, c.decl.session = some p → ctx.session.isSome ∨ p.nullable) ∧
        (ctx.session.isSome → c.decl.session.isSome) := by
  unfold sessionBinding
  rcases hp : c.decl.session with _ | p <;> rcases hs : ctx.session with _ | s
  · simp
  · simp
  · by_cases hn : p.nullable <;> simp [hn]
  · simp

theorem makeRequest_ok_iff_parts :
    (∃ req, c.makeRequest ctx input = .ok req) ↔
      (∃ fs, c.stateField ctx = .ok fs) ∧ (∃ fs, c.constantsField ctx = .ok fs) ∧
        (∃ fs, c.inputField input = .ok fs) ∧ ∃ b, c.sessionBinding ctx = .ok b := by
  simp only [makeRequest, Except.bind_eq_ok, Except.pure_eq_ok]
  constructor
  · rintro ⟨_, st, hst, k, hk, i, hi, s, hs, -⟩
    exact ⟨⟨st, hst⟩, ⟨k, hk⟩, ⟨i, hi⟩, ⟨s, hs⟩⟩
  · rintro ⟨⟨st, hst⟩, ⟨k, hk⟩, ⟨i, hi⟩, ⟨s, hs⟩⟩
    exact ⟨_, st, hst, k, hk, i, hi, s, hs, rfl⟩

theorem makeRequest_ok_iff : (∃ req, c.makeRequest ctx input = .ok req) ↔ c.Admits ctx input := by
  rw [makeRequest_ok_iff_parts, stateField_ok_iff, constantsField_ok_iff, inputField_ok_iff,
    sessionBinding_ok_iff]
  constructor
  · rintro ⟨hst, ⟨hk, hreq⟩, ⟨hin, henc⟩, hses, hsd⟩
    exact ⟨hst, hk, hreq, hin, henc, hses, hsd⟩
  · rintro ⟨hst, hk, hreq, hin, henc, hses, hsd⟩
    exact ⟨hst, ⟨hk, hreq⟩, ⟨hin, henc⟩, hses, hsd⟩

theorem sessionBinding_eq {b : Option SessionBinding} (h : c.sessionBinding ctx = .ok b) :
    b = c.decl.session.map fun p => ⟨p.name, p.nullable, ctx.session⟩ := by
  unfold sessionBinding at h
  rcases hp : c.decl.session with _ | p <;> rcases hs : ctx.session with _ | s <;>
    simp only [hp, hs] at h
  · cases h
    rfl
  · cases h
  all_goals
    split at h
    · cases h
    · cases h
      rfl

section Placed

variable (hd : c.decl.Placed) (batch : Option (List Document))
include hd

theorem stateField_eq {fs : List CallField} (h : c.stateField ctx = .ok fs) :
    fs = (c.decl.endpointState.bind (fieldFor ctx batch)).toList := by
  unfold stateField at h
  rcases hp : c.decl.endpointState with _ | p <;> rcases hs : ctx.endpointState with _ | s <;>
    simp only [hp, hs] at h
  · cases h
    rfl
  · cases h
  all_goals
    cases h
    simp [fieldFor, hd.role_of_held (r := .endpointState) (fun _ h => nomatch h) hp, hs]

theorem constantsField_eq {fs : List CallField} (h : c.constantsField ctx = .ok fs) :
    fs = (c.decl.constants.bind (fieldFor ctx batch)).toList := by
  unfold constantsField at h
  rcases hp : c.decl.constants with _ | p <;> rcases hk : ctx.constants with _ | k <;>
    simp only [hp, hk] at h
  · cases h
    rfl
  · cases h
  · obtain ⟨n, hn⟩ := hd.constants_role hp
    split at h <;> cases h
    simp [fieldFor, hn, hk]
  · obtain ⟨n, hn⟩ := hd.constants_role hp
    cases h
    simp [fieldFor, hn, hk]

theorem session_fieldFor : c.decl.session.bind (fieldFor ctx batch) = none := by
  rcases hp : c.decl.session with _ | p
  · rfl
  · simp [fieldFor, hd.role_of_held (r := .session) (fun _ h => nomatch h) hp]

theorem inputField_eq (ctx : CallContext) {fs : List CallField} (h : c.inputField input = .ok fs) :
    ∃ batch, c.SendsBatch input batch ∧
      fs = (c.decl.input.bind (fieldFor ctx batch)).toList := by
  unfold inputField at h
  unfold SendsBatch
  rcases hp : c.decl.input with _ | p <;> rcases hx : input with _ | xs <;>
    simp only [hp, hx] at h
  · cases h
    exact ⟨none, rfl, rfl⟩
  · split at h <;> cases h
    exact ⟨none, rfl, rfl⟩
  · cases h
    exact ⟨none, rfl, by simp [fieldFor, hd.role_of_held (r := .input) (fun _ h => nomatch h) hp]⟩
  · rcases hh : c.input with _ | hdl <;> simp only [hh] at h
    · cases h
    obtain ⟨ds, hds, h⟩ := Except.bind_eq_ok.1 h
    cases Except.pure_eq_ok.1 h
    exact ⟨some ds, ⟨hdl, ds, rfl, (Handle.encode_documents_ok ..).1 hds, rfl⟩,
      by simp [fieldFor, hd.role_of_held (r := .input) (fun _ h => nomatch h) hp]⟩

end Placed

theorem makeRequest_eq (hd : c.decl.Placed) {req : Request}
    (h : c.makeRequest ctx input = .ok req) :
    req.endpoint = c.decl.path ∧ req.valuesKind = c.decl.valuesKind ∧
      req.session = c.decl.session.map (fun p => ⟨p.name, p.nullable, ctx.session⟩) ∧
      ∃ batch, c.SendsBatch input batch ∧
        req.fields = c.decl.params.filterMap (fieldFor ctx batch) := by
  obtain ⟨st, hst, h⟩ := Except.bind_eq_ok.1 h
  obtain ⟨k, hk, h⟩ := Except.bind_eq_ok.1 h
  obtain ⟨i, hi, h⟩ := Except.bind_eq_ok.1 h
  obtain ⟨s, hs, h⟩ := Except.bind_eq_ok.1 h
  cases Except.pure_eq_ok.1 h
  obtain ⟨batch, hbatch, rfl⟩ := inputField_eq hd ctx hi
  refine ⟨rfl, rfl, sessionBinding_eq hs, batch, hbatch, ?_⟩
  rw [Declaration.params_filterMap, stateField_eq hd batch hst, constantsField_eq hd batch hk,
    session_fieldFor hd]
  simp

theorem new_handles {j : Json} {hi : Option (Handle α)} {ho : Option (Handle β)}
    (h : Caller.new j hi ho = .ok c) : c.input = hi ∧ c.output = ho := by
  unfold Caller.new at h
  simp only [bind, Except.bind] at h
  cases hp : Declaration.parse j hi.isSome ho.isSome with
  | error e => rw [hp] at h; cases h
  | ok d =>
    rw [hp] at h
    dsimp only at h
    repeat' split at h
    all_goals try cases h
    all_goals exact ⟨rfl, rfl⟩

theorem new_input_handle {j : Json} {hi : Option (Handle α)} {ho : Option (Handle β)}
    (h : Caller.new j hi ho = .ok c) : c.input.isSome = c.decl.input.isSome := by
  rw [(new_handles h).1, Declaration.parse_input (new_decl h)]

/-- A request is built exactly when admitted, and carries the declared fields in wire order. -/
theorem makeRequest_builds_declared_fields {j : Json} {hi : Option (Handle α)}
    {ho : Option (Handle β)} (hnew : Caller.new j hi ho = .ok c) (ctx : CallContext)
    (input : Option (List α)) :
    c.input.isSome = c.decl.input.isSome ∧
    ((∃ req, c.makeRequest ctx input = .ok req) ↔ c.Admits ctx input) ∧
    ∀ req, c.makeRequest ctx input = .ok req →
      req.endpoint = c.decl.path ∧ req.valuesKind = c.decl.valuesKind ∧
      req.session = c.decl.session.map (fun p => ⟨p.name, p.nullable, ctx.session⟩) ∧
      ∃ batch, c.SendsBatch input batch ∧
        req.fields = c.decl.params.filterMap (fieldFor ctx batch) :=
  ⟨new_input_handle hnew, makeRequest_ok_iff,
    fun _ h => makeRequest_eq (Declaration.parse_placed (new_decl hnew)) h⟩

theorem makeRequest_builds_process_fields :
    ∃ c : Caller String String, Caller.new (.obj [("endpoint", .str "/bulk/process.sjs"),
        ("params", .arr [
          .obj [("name", .str "endpointState"), ("datatype", .str "jsonDocument"),
            ("multiple", .bool false), ("nullable", .bool true)],
          .obj [("name", .str "session"), ("datatype", .str "session"),
            ("multiple", .bool false), ("nullable", .bool true)],
          .obj [("name", .str "workUnit"), ("datatype", .str "jsonDocument"),
            ("multiple", .bool false), ("nullable", .bool true)],
          .obj [("name", .str "input"), ("datatype", .str "jsonDocument"),
            ("multiple", .bool true), ("nullable", .bool true)]]),
        ("return", .obj [("datatype", .str "jsonDocument"), ("multiple", .bool true),
          ("nullable", .bool true)])]) (some Handle.text) (some Handle.text) = .ok c ∧
      c.input.isSome = c.decl.input.isSome ∧
      ((∃ req, c.makeRequest { endpointState := some [123, 125], constants := some [123, 125] }
          (some ["a", "b"]) = .ok req) ↔
        c.Admits { endpointState := some [123, 125], constants := some [123, 125] }
          (some ["a", "b"])) ∧
      ∀ req, c.makeRequest { endpointState := some [123, 125], constants := some [123, 125] }
          (some ["a", "b"]) = .ok req →
        req.endpoint = c.decl.path ∧ req.valuesKind = c.decl.valuesKind ∧
        req.session = c.decl.session.map (fun p => ⟨p.name, p.nullable, none⟩) ∧
        ∃ batch, c.SendsBatch (some ["a", "b"]) batch ∧
          req.fields = c.decl.params.filterMap
            (fieldFor { endpointState := some [123, 125], constants := some [123, 125] } batch) := by
  refine ⟨?c, ?new, makeRequest_builds_declared_fields ?new _ _⟩
  case new => rfl

end Caller
end EndpointCall
