import EndpointCall.Declaration.Descriptor
/-! Descriptor objects read by key. -/
namespace EndpointCall

theorem Except.bind_eq_ok {ε α β : Type} {x : Except ε α} {f : α → Except ε β} {b : β} :
    x >>= f = .ok b ↔ ∃ a, x = .ok a ∧ f a = .ok b := by
  cases x <;> simp [bind, Except.bind]

theorem Except.pure_eq_ok {ε α : Type} {a b : α} : (pure a : Except ε α) = .ok b ↔ a = b := by
  simp [pure, Except.pure]

/-- A JSON value as a parser of text builds one: no object repeats a key. -/
inductive Json.KeysUnique : Json → Prop
  | null : KeysUnique .null
  | bool (b : Bool) : KeysUnique (.bool b)
  | num (n : Number) : KeysUnique (.num n)
  | str (s : String) : KeysUnique (.str s)
  | arr {xs : List Json} : (∀ x ∈ xs, KeysUnique x) → KeysUnique (.arr xs)
  | obj {fs : List (String × Json)} : (fs.map Prod.fst).Nodup → (∀ kv ∈ fs, KeysUnique kv.2) →
      KeysUnique (.obj fs)

theorem List.lookup_of_mem {fs : List (String × Json)} (hn : (fs.map Prod.fst).Nodup)
    {k : String} {v : Json} (hm : (k, v) ∈ fs) : fs.lookup k = some v := by
  induction fs with
  | nil => cases hm
  | cons kv rest ih =>
    obtain ⟨k', v'⟩ := kv
    obtain ⟨hk, hn'⟩ := List.nodup_cons.1 hn
    rcases List.mem_cons.1 hm with h | hm'
    · obtain ⟨rfl, rfl⟩ := Prod.mk.inj h
      simp
    · have hne : (k == k') = false := by
        rw [beq_eq_false_iff_ne]
        rintro rfl
        exact hk (List.mem_map.2 ⟨(k, v), hm', rfl⟩)
      simp [List.lookup_cons, hne, ih hn' hm']

theorem List.mem_of_lookup {fs : List (String × Json)} {k : String} {v : Json}
    (h : fs.lookup k = some v) : (k, v) ∈ fs := by
  obtain ⟨l₁, l₂, rfl, -⟩ := List.lookup_eq_some_iff.1 h
  simp

theorem List.lookup_eq_none_of_not_mem {fs : List (String × Json)} {k : String}
    (h : k ∉ fs.map Prod.fst) : fs.lookup k = none := by
  rw [List.lookup_eq_none_iff]
  intro kv hm
  have hne : k ≠ kv.1 := fun he => h (List.mem_map.2 ⟨kv, hm, he.symm⟩)
  simpa using hne

theorem Json.KeysUnique.get? {j v : Json} {k : String} (hj : j.KeysUnique)
    (h : j.get? k = some v) : v.KeysUnique := by
  cases hj with
  | obj _ hall => exact hall _ (List.mem_of_lookup h)
  | _ => cases h

attribute [simp] Json.KeysUnique.null Json.KeysUnique.bool Json.KeysUnique.num Json.KeysUnique.str

@[simp] theorem Json.keysUnique_arr {xs : List Json} :
    (Json.arr xs).KeysUnique ↔ ∀ x ∈ xs, x.KeysUnique :=
  ⟨fun h => by cases h with | arr h => exact h, .arr⟩

@[simp] theorem Json.keysUnique_obj {fs : List (String × Json)} :
    (Json.obj fs).KeysUnique ↔ (fs.map Prod.fst).Nodup ∧ ∀ kv ∈ fs, kv.2.KeysUnique :=
  ⟨fun h => by cases h with | obj hn h => exact ⟨hn, h⟩, fun h => .obj h.1 h.2⟩

def Json.FlagIs (j : Json) (k : String) (b : Bool) : Prop :=
  j.get? k = some (.bool b) ∨ (j.get? k = none ∧ b = false)

namespace DescriptorFields

def Typed (kv : String × Json) : Prop :=
  (kv.1 = "name" → kv.2 = .null ∨ ∃ s, kv.2 = .str s) ∧
  (kv.1 = "datatype" → ∃ s, kv.2 = .str s) ∧
  (kv.1 = "multiple" → ∃ b, kv.2 = .bool b) ∧
  (kv.1 = "nullable" → ∃ b, kv.2 = .bool b)

def readKey {α : Type} (fs : List (String × Json)) (k : String) (f : Json → α → α) (a : α) : α :=
  match fs.lookup k with
  | some v => f v a
  | none => a

def withEntries (d : DescriptorFields) (fs : List (String × Json)) : DescriptorFields where
  name := readKey fs "name" (fun v _ => v.asString?) d.name
  datatype := readKey fs "datatype" (fun v _ => v.asString?) d.datatype
  multiple := readKey fs "multiple" (fun v b => v.asBool?.getD b) d.multiple
  nullable := readKey fs "nullable" (fun v b => v.asBool?.getD b) d.nullable

theorem readKey_cons {α : Type} {kv : String × Json} {rest : List (String × Json)}
    (h : kv.1 ∉ rest.map Prod.fst) (k : String) (f : Json → α → α) (a : α) :
    readKey rest k f (readKey [kv] k f a) = readKey (kv :: rest) k f a := by
  obtain ⟨k', v⟩ := kv
  by_cases hk : k = k'
  · subst hk
    simp [readKey, List.lookup_eq_none_of_not_mem h]
  · have hne : (k == k') = false := beq_eq_false_iff_ne.2 hk
    simp [readKey, List.lookup_cons, hne]

theorem withEntries_cons {d : DescriptorFields} {kv : String × Json}
    {rest : List (String × Json)} (h : kv.1 ∉ rest.map Prod.fst) :
    (d.withEntries [kv]).withEntries rest = d.withEntries (kv :: rest) := by
  simp only [withEntries, readKey_cons h]

theorem put_ok {d d' : DescriptorFields} {kv : String × Json} :
    d.put kv = .ok d' ↔ Typed kv ∧ d' = d.withEntries [kv] := by
  obtain ⟨k, v⟩ := kv
  unfold put
  split
  case h_10 _ _ hname _ hdt _ hmul _ hnul =>
    have h1 : ("name" == k) = false := beq_eq_false_iff_ne.2 fun h => hname v (by rw [h])
    have h2 : ("datatype" == k) = false := beq_eq_false_iff_ne.2 fun h => hdt v (by rw [h])
    have h3 : ("multiple" == k) = false := beq_eq_false_iff_ne.2 fun h => hmul v (by rw [h])
    have h4 : ("nullable" == k) = false := beq_eq_false_iff_ne.2 fun h => hnul v (by rw [h])
    have hk : Typed (k, v) := ⟨fun h => (hname v (Prod.ext h rfl)).elim,
      fun h => (hdt v (Prod.ext h rfl)).elim, fun h => (hmul v (Prod.ext h rfl)).elim,
      fun h => (hnul v (Prod.ext h rfl)).elim⟩
    simp only [withEntries, readKey, List.lookup_cons, List.lookup_nil, h1, h2, h3, h4,
      Except.ok.injEq, hk, true_and]
    constructor <;> intro h <;> subst h <;> rfl
  all_goals
    rename_i heq
    obtain ⟨rfl, rfl⟩ := Prod.mk.inj heq
    simp_all [Typed, withEntries, readKey, List.lookup_cons, Json.asString?, Json.asBool?, eq_comm]

theorem foldlM_put_ok {fs : List (String × Json)} (hn : (fs.map Prod.fst).Nodup)
    {d d' : DescriptorFields} :
    fs.foldlM put d = .ok d' ↔ (∀ kv ∈ fs, Typed kv) ∧ d' = d.withEntries fs := by
  induction fs generalizing d with
  | nil =>
    have hd : d.withEntries [] = d := rfl
    rw [List.foldlM_nil, Except.pure_eq_ok, hd]
    exact ⟨fun h => ⟨by simp, h.symm⟩, fun h => h.2.symm⟩
  | cons kv rest ih =>
    obtain ⟨hk, hn'⟩ := List.nodup_cons.1 hn
    rw [List.foldlM_cons, Except.bind_eq_ok]
    constructor
    · rintro ⟨d₁, h₁, h₂⟩
      obtain ⟨hkv, rfl⟩ := put_ok.1 h₁
      obtain ⟨hrest, rfl⟩ := (ih hn').1 h₂
      exact ⟨List.forall_mem_cons.2 ⟨hkv, hrest⟩, withEntries_cons hk⟩
    · rintro ⟨hall, rfl⟩
      obtain ⟨hkv, hrest⟩ := List.forall_mem_cons.1 hall
      exact ⟨d.withEntries [kv], put_ok.2 ⟨hkv, rfl⟩,
        (ih hn').2 ⟨hrest, (withEntries_cons hk).symm⟩⟩

theorem typed_iff {fs : List (String × Json)} (hn : (fs.map Prod.fst).Nodup) :
    (∀ kv ∈ fs, Typed kv) ↔
      (∀ v, fs.lookup "name" = some v → v = .null ∨ ∃ s, v = .str s) ∧
      (∀ v, fs.lookup "datatype" = some v → ∃ s, v = .str s) ∧
      (∀ v, fs.lookup "multiple" = some v → ∃ b, v = .bool b) ∧
      (∀ v, fs.lookup "nullable" = some v → ∃ b, v = .bool b) := by
  constructor
  · intro hall
    have hat : ∀ k v, fs.lookup k = some v → Typed (k, v) :=
      fun k v h => hall _ (List.mem_of_lookup h)
    exact ⟨fun v h => (hat _ v h).1 rfl, fun v h => (hat _ v h).2.1 rfl,
      fun v h => (hat _ v h).2.2.1 rfl, fun v h => (hat _ v h).2.2.2 rfl⟩
  · rintro ⟨hname, hdt, hmul, hnul⟩ ⟨k, v⟩ hm
    have hl : fs.lookup k = some v := List.lookup_of_mem hn hm
    refine ⟨fun hk => ?_, fun hk => ?_, fun hk => ?_, fun hk => ?_⟩ <;>
      dsimp only at hk <;> subst hk
    · exact hname v hl
    · exact hdt v hl
    · exact hmul v hl
    · exact hnul v hl

theorem name_read {fs : List (String × Json)} {nm : Option String} :
    ((∀ v, fs.lookup "name" = some v → v = .null ∨ ∃ s, v = .str s) ∧
      nm = readKey fs "name" (fun v _ => v.asString?) none) ↔
    (fs.lookup "name" = nm.map .str ∨ (fs.lookup "name" = some .null ∧ nm = none)) := by
  cases h : fs.lookup "name" with
  | none => cases nm <;> simp [readKey, h]
  | some v => cases v <;> cases nm <;> simp [readKey, h, Json.asString?, eq_comm]

theorem datatype_read {fs : List (String × Json)} {t : String} :
    ((∀ v, fs.lookup "datatype" = some v → ∃ s, v = .str s) ∧
      readKey fs "datatype" (fun v _ => v.asString?) none = some t) ↔
    fs.lookup "datatype" = some (.str t) := by
  cases h : fs.lookup "datatype" with
  | none => simp [readKey, h]
  | some v => cases v <;> simp [readKey, h, Json.asString?]

theorem flag_read {fs : List (String × Json)} {k : String} {b : Bool} :
    ((∀ v, fs.lookup k = some v → ∃ b, v = .bool b) ∧
      b = readKey fs k (fun v b => v.asBool?.getD b) false) ↔ (Json.obj fs).FlagIs k b := by
  cases h : fs.lookup k with
  | none => cases b <;> simp [readKey, Json.FlagIs, Json.get?, h]
  | some v => cases v <;> simp [readKey, Json.FlagIs, Json.get?, h, Json.asBool?, eq_comm]

structure Reads (j : Json) (d : DescriptorFields) (t : String) : Prop where
  isObject : j.isObject = true
  name : j.get? "name" = d.name.map .str ∨ (j.get? "name" = some .null ∧ d.name = none)
  datatype : j.get? "datatype" = some (.str t) ∧ d.datatype = some t
  multiple : j.FlagIs "multiple" d.multiple
  nullable : j.FlagIs "nullable" d.nullable

theorem reads_obj_iff {fs : List (String × Json)} (hn : (fs.map Prod.fst).Nodup)
    {d : DescriptorFields} {t : String} :
    Reads (.obj fs) d t ↔
      (∀ kv ∈ fs, Typed kv) ∧ d = ({} : DescriptorFields).withEntries fs ∧ d.datatype = some t := by
  obtain ⟨nm, dt, m, n⟩ := d
  rw [typed_iff hn]
  constructor
  · rintro ⟨-, hname, ⟨hdt, rfl⟩, hm, hnu⟩
    obtain ⟨tn, rfl⟩ := name_read.2 hname
    obtain ⟨td, htd⟩ := datatype_read.2 hdt
    obtain ⟨tm, rfl⟩ := flag_read.2 hm
    obtain ⟨tu, rfl⟩ := flag_read.2 hnu
    refine ⟨⟨tn, td, tm, tu⟩, ?_, rfl⟩
    simp only [withEntries, htd]
  · rintro ⟨⟨tn, td, tm, tu⟩, hd, ht⟩
    simp only [withEntries, mk.injEq] at hd
    obtain ⟨rfl, rfl, rfl, rfl⟩ := hd
    exact ⟨rfl, name_read.1 ⟨tn, rfl⟩, ⟨datatype_read.1 ⟨td, ht⟩, ht⟩, flag_read.1 ⟨tm, rfl⟩,
      flag_read.1 ⟨tu, rfl⟩⟩

theorem ofEntries_ok {fs : List (String × Json)} {d : DescriptorFields} {t : String} :
    ofEntries fs = .ok (d, t) ↔ fs.foldlM put {} = .ok d ∧ d.datatype = some t := by
  unfold ofEntries
  rw [Except.bind_eq_ok]
  constructor
  · rintro ⟨d', hf, hm⟩
    split at hm
    · obtain ⟨rfl, rfl⟩ := Prod.mk.inj (Except.pure_eq_ok.1 hm)
      exact ⟨hf, by assumption⟩
    · cases hm
  · rintro ⟨hf, ht⟩
    refine ⟨d, hf, ?_⟩
    rw [ht]
    rfl

theorem ofJson_ok {w : String} {j : Json} (hj : j.KeysUnique) {d : DescriptorFields}
    {t : String} : ofJson w j = .ok (d, t) ↔ Reads j d t := by
  cases hj with
  | @obj fs hn _ =>
    rw [reads_obj_iff hn, ← and_assoc, ← foldlM_put_ok hn, ← ofEntries_ok]
    simp only [ofJson]
    cases ofEntries fs <;> simp
  | _ => exact ⟨fun h => (by cases h), fun h => absurd h.isObject (by simp [Json.isObject])⟩

end DescriptorFields

theorem ParamRole.parse_ok {n : String} {r : ParamRole} :
    ParamRole.parse n = .ok r ↔ r.name = n := by
  rcases r with _ | _ | _ | ⟨_ | _⟩ <;> unfold ParamRole.parse <;> (repeat' split) <;>
    simp_all [ParamRole.name, eq_comm]

theorem DataType.parse_ok {t : String} {dt : DataType} :
    DataType.parse t = .ok dt ↔ DataType.ofName? t = some dt := by
  unfold DataType.parse
  split <;> simp_all

namespace Declaration

/-- A descriptor object with datatype `dt`, multiple `m` and nullable `n`. -/
structure Describes (j : Json) (dt : DataType) (m n : Bool) : Prop where
  isObject : j.isObject = true
  datatype : ∃ t, j.get? "datatype" = some (.str t) ∧ DataType.ofName? t = some dt
  multiple : j.FlagIs "multiple" m
  nullable : j.FlagIs "nullable" n

theorem Describes.of_reads {j : Json} {d : DescriptorFields} {t : String} {dt : DataType}
    {m n : Bool} (hr : DescriptorFields.Reads j d t) (hdt : DataType.ofName? t = some dt)
    (hm : d.multiple = m) (hn : d.nullable = n) : Describes j dt m n :=
  ⟨hr.isObject, ⟨t, hr.datatype.1, hdt⟩, hm ▸ hr.multiple, hn ▸ hr.nullable⟩

def DeclaresParam (j : Json) (p : ParamDescriptor) : Prop :=
  Describes j p.dataType p.multiple p.nullable ∧ j.get? "name" = some (.str p.role.name)

def DeclaresReturn (j : Json) (r : ReturnDescriptor) : Prop :=
  Describes j r.dataType r.multiple r.nullable ∧
    ∀ v, j.get? "name" = some v → v = .null ∨ ∃ s, v = .str s

end Declaration

namespace ParamDescriptor

theorem ofJson_eq_ok {j : Json} {p : ParamDescriptor} :
    ofJson j = .ok p ↔ ∃ d t, DescriptorFields.ofJson "parameter" j = .ok (d, t) ∧
      d.name = some p.role.name ∧ DataType.ofName? t = some p.dataType ∧
      d.multiple = p.multiple ∧ d.nullable = p.nullable := by
  obtain ⟨role, dt, m, n⟩ := p
  unfold ofJson
  simp only [Except.bind_eq_ok]
  constructor
  · rintro ⟨⟨d, t⟩, hf, h⟩
    dsimp only at h
    split at h
    · rename_i nm hnm
      obtain ⟨role', hr, h⟩ := Except.bind_eq_ok.1 h
      obtain ⟨dt', hdt, h⟩ := Except.bind_eq_ok.1 h
      cases Except.pure_eq_ok.1 h
      exact ⟨d, t, hf, by rw [hnm, ParamRole.parse_ok.1 hr], DataType.parse_ok.1 hdt, rfl, rfl⟩
    · cases h
  · rintro ⟨d, t, hf, hnm, hdt, rfl, rfl⟩
    have hr : ParamRole.parse role.name = .ok role := ParamRole.parse_ok.2 rfl
    refine ⟨(d, t), hf, ?_⟩
    dsimp only
    rw [hnm]
    dsimp only
    rw [hr, DataType.parse_ok.2 hdt]
    rfl

theorem ofJson_ok {j : Json} (hj : j.KeysUnique) {p : ParamDescriptor} :
    ofJson j = .ok p ↔ Declaration.DeclaresParam j p := by
  rw [ofJson_eq_ok]
  constructor
  · rintro ⟨d, t, hf, hnm, hdt, hm, hnu⟩
    have hr := (DescriptorFields.ofJson_ok hj).1 hf
    refine ⟨.of_reads hr hdt hm hnu, ?_⟩
    rcases hr.name with h | ⟨-, h⟩
    · rw [h, hnm]
      rfl
    · rw [hnm] at h
      cases h
  · rintro ⟨⟨hobj, ⟨t, ht, hdt⟩, hm, hnu⟩, hnm⟩
    refine ⟨⟨some p.role.name, some t, p.multiple, p.nullable⟩, t, ?_, rfl, hdt, rfl, rfl⟩
    exact (DescriptorFields.ofJson_ok hj).2 ⟨hobj, .inl hnm, ⟨ht, rfl⟩, hm, hnu⟩

end ParamDescriptor

namespace ReturnDescriptor

theorem ofJson_eq_ok {j : Json} {r : ReturnDescriptor} :
    ofJson j = .ok r ↔ ∃ d t, DescriptorFields.ofJson "return" j = .ok (d, t) ∧
      DataType.ofName? t = some r.dataType ∧ d.multiple = r.multiple ∧
      d.nullable = r.nullable := by
  obtain ⟨dt, m, n⟩ := r
  unfold ofJson
  simp only [Except.bind_eq_ok]
  constructor
  · rintro ⟨⟨d, t⟩, hf, dt', hdt, h⟩
    cases Except.pure_eq_ok.1 h
    exact ⟨d, t, hf, DataType.parse_ok.1 hdt, rfl, rfl⟩
  · rintro ⟨d, t, hf, hdt, rfl, rfl⟩
    exact ⟨(d, t), hf, dt, DataType.parse_ok.2 hdt, rfl⟩

theorem ofJson_ok {j : Json} (hj : j.KeysUnique) {r : ReturnDescriptor} :
    ofJson j = .ok r ↔ Declaration.DeclaresReturn j r := by
  rw [ofJson_eq_ok]
  constructor
  · rintro ⟨d, t, hf, hdt, hm, hnu⟩
    have hr := (DescriptorFields.ofJson_ok hj).1 hf
    refine ⟨.of_reads hr hdt hm hnu, ?_⟩
    intro v hv
    rcases hr.name with h | ⟨h, -⟩
    · rw [hv] at h
      obtain ⟨s, -, hs⟩ := Option.map_eq_some_iff.1 h.symm
      exact .inr ⟨s, hs.symm⟩
    · rw [hv] at h
      exact .inl (Option.some.inj h)
  · rintro ⟨⟨hobj, ⟨t, ht, hdt⟩, hm, hnu⟩, hnm⟩
    refine ⟨⟨(j.get? "name").bind Json.asString?, some t, r.multiple, r.nullable⟩, t, ?_, hdt,
      rfl, rfl⟩
    refine (DescriptorFields.ofJson_ok hj).2 ⟨hobj, ?_, ⟨ht, rfl⟩, hm, hnu⟩
    cases h : j.get? "name" with
    | none => exact .inl rfl
    | some v =>
      rcases hnm v h with rfl | ⟨s, rfl⟩
      · exact .inr ⟨rfl, rfl⟩
      · exact .inl rfl

end ReturnDescriptor

end EndpointCall
