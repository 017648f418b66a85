import EndpointCall.Transport.Multipart
import EndpointCall.Proofs.Utf8Ascii
import Mathlib.Data.List.TakeWhile
/-! Form-data bodies read back. -/
namespace EndpointCall.Multipart

variable {γ : Type}

/-! ### Searching -/

theorem infix_of_infix_append_cons {needle a b : List γ} {c : γ} (hc : c ∉ needle)
    (h : needle <:+: a ++ c :: b) : needle <:+: a ∨ needle <:+: b := by
  obtain ⟨s, t, hst⟩ := h
  rw [List.append_assoc] at hst
  rcases List.append_eq_append_iff.1 hst with ⟨a', rfl, h₂⟩ | ⟨c', rfl, h₂⟩
  · rcases List.append_eq_append_iff.1 h₂ with ⟨x, rfl, -⟩ | ⟨y, rfl, h₃⟩
    · exact .inl ⟨s, x, by simp⟩
    · cases y with
      | nil => exact .inl ⟨s, [], by simp⟩
      | cons y ys =>
        obtain ⟨rfl, -⟩ := List.cons.inj h₃
        exact absurd (by simp) hc
  · cases c' with
    | nil =>
      cases needle with
      | nil => exact .inl List.nil_infix
      | cons n ns =>
        obtain ⟨rfl, -⟩ := List.cons.inj h₂
        exact absurd (by simp) hc
    | cons c₀ cs =>
      obtain ⟨-, rfl⟩ := List.cons.inj h₂
      exact .inr ⟨cs, t, by simp⟩

theorem infix_of_infix_crlf {needle a b : List UInt8} (hcr : 13 ∉ needle)
    (hdash : needle.head? = some 45) (h : needle <:+: a ++ crlf ++ b) :
    needle <:+: a ∨ needle <:+: b := by
  rw [show a ++ crlf ++ b = a ++ 13 :: 10 :: b by simp [crlf]] at h
  refine (infix_of_infix_append_cons hcr h).imp_right fun h' => ?_
  rcases List.infix_cons_iff.1 h' with hp | hb
  · cases needle with
    | nil => cases hdash
    | cons n ns =>
      obtain ⟨rfl, -⟩ := List.cons_prefix_cons.1 hp
      cases hdash
  · exact hb

theorem findFrom_append {needle : List UInt8} (hn : needle ≠ []) (rest : List UInt8) :
    ∀ (pre : List UInt8) (i : Nat), ¬ needle <:+: pre ++ needle.dropLast →
      findFrom needle i (pre ++ needle ++ rest) = some (i + pre.length)
  | [], i, _ => by
    obtain ⟨n, ns, rfl⟩ := List.exists_cons_of_ne_nil hn
    simp [findFrom, List.isPrefixOf_iff_prefix]
  | b :: pre, i, hfirst => by
    have hno : ¬ needle.isPrefixOf (b :: (pre ++ needle ++ rest)) := by
      rw [List.isPrefixOf_iff_prefix, show b :: (pre ++ needle ++ rest) =
        (b :: pre) ++ (needle ++ rest) by simp]
      intro hp
      have hpre : (b :: pre) ++ needle.dropLast <+: (b :: pre) ++ (needle ++ rest) :=
        (List.prefix_append_right_inj _).2 ((List.dropLast_prefix needle).trans
          (List.prefix_append _ _))
      have hlen : needle.length ≤ ((b :: pre) ++ needle.dropLast).length := by
        have := List.length_pos_iff.2 hn
        simp [List.length_dropLast]
        omega
      exact hfirst (List.prefix_of_prefix_length_le hp hpre hlen).isInfix
    have ih := findFrom_append hn rest pre (i + 1) fun h =>
      hfirst (h.trans (List.infix_cons (by simp)))
    rw [List.cons_append, List.cons_append, findFrom, if_neg hno, ih, List.length_cons]
    congr 1
    omega

theorem find_of_drop {hay needle pre rest : List UInt8} {start : Nat} (hn : needle ≠ [])
    (hs : hay.drop start = pre ++ needle ++ rest) (hfirst : ¬ needle <:+: pre ++ needle.dropLast) :
    find hay needle start = some (start + pre.length) := by
  have hlen : 0 < (hay.drop start).length := by
    rw [hs]
    have := List.length_pos_iff.2 hn
    simp only [List.length_append]
    omega
  rw [List.length_drop] at hlen
  unfold find
  rw [if_neg (by simp [hn]; omega), hs, findFrom_append hn rest pre start hfirst]

/-! ### Boundaries -/

/-- A boundary a content type carries intact. -/
structure Admissible (b : String) : Prop where
  noCr : '\r' ∉ b.toList
  noQuote : '"' ∉ b.toList
  noSemicolon : ';' ∉ b.toList
  leading : ∀ c ∈ b.toList.head?, Text.isBlank c = false
  trailing : ∀ c ∈ b.toList.getLast?, Text.isBlank c = false

def delimiter (boundary : String) : List UInt8 := dashes ++ Utf8.encode boundary

theorem delimiter_ne_nil (boundary : String) : delimiter boundary ≠ [] := by
  simp [delimiter, dashes]

theorem delimiter_head (boundary : String) : (delimiter boundary).head? = some 45 := rfl

theorem not_mem_encode_of_ascii {s : String} {b : UInt8} (hb : b.toNat < 128)
    (h : Char.ofNat b.toNat ∉ s.toList) : b ∉ Utf8.encode s :=
  fun hm => h (Utf8.mem_encode_ascii hb hm)

theorem cr_not_mem_encode {s : String} (h : '\r' ∉ s.toList) : 13 ∉ Utf8.encode s :=
  not_mem_encode_of_ascii (b := 13) (by decide)
    (by rw [show Char.ofNat (13 : UInt8).toNat = '\r' by decide]; exact h)

theorem quote_not_mem_encode {s : String} (h : '"' ∉ s.toList) : 34 ∉ Utf8.encode s :=
  not_mem_encode_of_ascii (b := 34) (by decide)
    (by rw [show Char.ofNat (34 : UInt8).toNat = '"' by decide]; exact h)

theorem cr_not_mem_delimiter {b : String} (h : '\r' ∉ b.toList) : 13 ∉ delimiter b := by
  simpa [delimiter, dashes] using cr_not_mem_encode h

theorem quote_not_mem_delimiter {b : String} (h : '"' ∉ b.toList) : 34 ∉ delimiter b := by
  simpa [delimiter, dashes] using quote_not_mem_encode h

theorem dropWhile_of_head {l : List Char} {p : Char → Bool} (h : ∀ c ∈ l.head?, p c = false) :
    l.dropWhile p = l := by
  cases l with
  | nil => rfl
  | cons c cs => exact List.dropWhile_cons_of_neg (by simp [h c rfl])

theorem trim_admissible {b : String} (h : Admissible b) : Text.trim b = b := by
  unfold Text.trim Text.trimEnd Text.trimStart
  rw [String.toList_ofList, dropWhile_of_head h.leading,
    dropWhile_of_head (by simpa [List.head?_reverse] using h.trailing), List.reverse_reverse,
    String.ofList_toList]

theorem trimQuotes_admissible {b : String} (h : Admissible b) : trimQuotes b = b := by
  have hq : ∀ l : List Char, '"' ∉ l → ∀ c ∈ l.head?, decide (c = '"') = false := by
    intro l hl c hc
    rw [decide_eq_false_iff_not]
    rintro rfl
    exact hl (List.mem_of_mem_head? hc)
  unfold trimQuotes
  rw [dropWhile_of_head (hq _ h.noQuote),
    dropWhile_of_head (hq _ (by simpa using h.noQuote)), List.reverse_reverse,
    String.ofList_toList]

theorem while_append {p : γ → Bool} {l : List γ} (h : ∃ x ∈ l, p x = false) (m : List γ) :
    (l ++ m).takeWhile p = l.takeWhile p ∧ (l ++ m).dropWhile p = l.dropWhile p ++ m := by
  induction l with
  | nil => simp at h
  | cons a l ih =>
    cases ha : p a with
    | false => simp [ha]
    | true =>
      have hl : ∃ x ∈ l, p x = false := by
        obtain ⟨x, hx, hpx⟩ := h
        rcases List.mem_cons.1 hx with rfl | hx
        · rw [ha] at hpx; cases hpx
        · exact ⟨x, hx, hpx⟩
      obtain ⟨ht, hd⟩ := ih hl
      simp [ha, ht, hd]

theorem splitOnce_append {s : String} {sep : Char} (h : sep ∈ s.toList) (t : String) :
    Text.splitOnce (s ++ t) sep = (Text.splitOnce s sep).map fun kv => (kv.1, kv.2 ++ t) := by
  have hw : ∃ x ∈ s.toList, decide (x ≠ sep) = false := ⟨sep, h, by simp⟩
  obtain ⟨ht, hd⟩ := while_append hw t.toList
  have hne : 1 ≤ (s.toList.dropWhile (· ≠ sep)).length := by
    refine List.length_pos_iff.2 fun he => ?_
    simpa using List.dropWhile_eq_nil_iff.1 he sep h
  have hc : s.toList.contains sep = true := List.contains_iff_mem.2 h
  have hc' : (s.toList ++ t.toList).contains sep = true :=
    List.contains_iff_mem.2 (List.mem_append_left _ h)
  unfold Text.splitOnce
  simp only [String.toList_append, hc, hc', ↓reduceIte, Option.map_some, ht, hd,
    List.drop_append_of_le_length hne, String.ofList_append, String.ofList_toList]

theorem boundaryOf_formDataType {b : String} (h : Admissible b) :
    boundaryOf (formDataType b) = some b := by
  have hparts : Text.splitOn (formDataType b) ';' = ["multipart/form-data", " boundary=" ++ b] := by
    have hsemi : ∀ l ∈ ["multipart/form-data".toList, (" boundary=" ++ b).toList], ';' ∉ l := by
      simp only [List.mem_cons, List.not_mem_nil, or_false, forall_eq_or_imp, forall_eq,
        String.toList_append, List.mem_append, not_or]
      exact ⟨by decide, by decide, h.noSemicolon⟩
    have hjoin : (formDataType b).toList =
        [';'].intercalate ["multipart/form-data".toList, (" boundary=" ++ b).toList] := by
      have h₁ : (formDataType b).toList = "multipart/form-data; boundary=".toList ++ b.toList :=
        String.toList_append
      have h₂ : "multipart/form-data; boundary=".toList =
          "multipart/form-data".toList ++ ';' :: " boundary=".toList := by decide
      have h₃ : (" boundary=" ++ b).toList = " boundary=".toList ++ b.toList := String.toList_append
      rw [List.intercalate_cons_cons, List.intercalate_singleton, h₃, h₁, h₂]
      simp only [List.append_assoc, List.cons_append, List.nil_append]
    rw [Text.splitOn, hjoin, List.splitOn_intercalate ';' hsemi (by simp)]
    simp only [List.map_cons, List.map_nil, String.ofList_toList]
  have hsplit : Text.splitOnce (" boundary=" ++ b) '=' = some (" boundary", b) := by
    rw [splitOnce_append (by decide), show Text.splitOnce " boundary=" '=' = some (" boundary", "")
      by decide]
    simp
  simp only [boundaryOf, hparts, List.drop_succ_cons, List.drop_zero, List.findSome?_cons,
    hsplit, show Text.eqIgnoreAsciiCase (Text.trim " boundary") "boundary" = true by decide,
    ↓reduceIte, trim_admissible h, trimQuotes_admissible h]

/-! ### The header lines of a part -/

def dispositionLine (name : String) : String :=
  "Content-Disposition: form-data; name=\"" ++ name ++ "\""

def typeLine (f : Format) : String := "Content-Type: " ++ f.mime

def headLines (name : String) (f : Format) : List UInt8 :=
  Utf8.encode (dispositionLine name) ++ crlf ++ Utf8.encode (typeLine f)

def carriedFormat : Format → Format
  | .unknown => .binary
  | f => f

def carried (d : Document) : Document := { d with format := carriedFormat d.format }

theorem encodePart_eq (boundary name : String) (d : Document) :
    encodePart boundary name d = delimiter boundary ++ crlf ++
      (headLines name d.format ++ crlf ++ crlf ++ d.bytes ++ crlf) := by
  unfold encodePart headLines delimiter dispositionLine typeLine
  simp only [List.append_assoc]

theorem encode_ascii_eq {s : String} (hs : ∀ c ∈ s.toList, c.toNat < 128) :
    Utf8.encode s = s.toList.map fun c => c.val.toUInt8 := by
  rw [Utf8.encode_eq, Utf8.flatMap_utf8EncodeChar_ascii hs]

theorem ascii_of_all {s : String} (h : (s.toList.all fun c => c.toNat < 128) = true) :
    ∀ c ∈ s.toList, c.toNat < 128 := by
  simpa using h

theorem typeLine_ascii (f : Format) : ∀ c ∈ (typeLine f).toList, c.toNat < 128 := by
  apply ascii_of_all
  cases f <;> simp only [typeLine, Format.mime, String.toList_append, String.reduceToList] <;>
    decide

theorem dispositionStart_ascii :
    ∀ c ∈ "Content-Disposition: form-data; name=".toList, c.toNat < 128 :=
  ascii_of_all (by simp only [String.reduceToList]; decide)

theorem dispositionOpen_ascii :
    ∀ c ∈ "Content-Disposition: form-data; name=\"".toList, c.toNat < 128 :=
  ascii_of_all (by simp only [String.reduceToList]; decide)

theorem typeLine_bytes (f : Format) : Utf8.encode (typeLine f) =
    (typeLine f).toList.map fun c => c.val.toUInt8 :=
  encode_ascii_eq (typeLine_ascii f)

theorem cr_not_mem_typeLine (f : Format) : 13 ∉ Utf8.encode (typeLine f) := by
  rw [typeLine_bytes]
  cases f <;> simp only [typeLine, Format.mime, String.toList_append, String.reduceToList,
    List.map_cons, List.map_nil, List.cons_append, List.nil_append] <;> decide

theorem dashes_not_infix_typeLine (f : Format) : ¬ dashes <:+: Utf8.encode (typeLine f) := by
  rw [typeLine_bytes]
  cases f <;> simp only [typeLine, Format.mime, String.toList_append, String.reduceToList,
    List.map_cons, List.map_nil, List.cons_append, List.nil_append, dashes] <;> decide

theorem blank_line_not_infix_typeLine (f : Format) :
    ¬ [13, 10, 13, 10] <:+: crlf ++ Utf8.encode (typeLine f) ++ [13, 10, 13] := by
  rw [typeLine_bytes]
  cases f <;> simp only [typeLine, Format.mime, String.toList_append, String.reduceToList,
    List.map_cons, List.map_nil, List.cons_append, List.nil_append, crlf] <;> decide

theorem dispositionLine_bytes (name : String) :
    Utf8.encode (dispositionLine name) =
      Utf8.encode "Content-Disposition: form-data; name=" ++ 34 :: (Utf8.encode name ++ [34]) := by
  have hq : ∀ c ∈ "\"".toList, c.toNat < 128 := ascii_of_all (by decide)
  have h₁ : Utf8.encode "Content-Disposition: form-data; name=\"" =
      Utf8.encode "Content-Disposition: form-data; name=" ++ [34] := by
    rw [encode_ascii_eq dispositionOpen_ascii, encode_ascii_eq dispositionStart_ascii]
    simp only [String.reduceToList, List.map_cons, List.map_nil, List.cons_append,
      List.nil_append]
    decide
  have h₂ : Utf8.encode "\"" = [34] := by
    rw [encode_ascii_eq hq]
    simp only [String.reduceToList, List.map_cons, List.map_nil]
    decide
  unfold dispositionLine
  rw [Utf8.encode_append, Utf8.encode_append, h₁, h₂]
  simp only [List.append_assoc, List.cons_append, List.nil_append]

theorem cr_not_mem_dispositionLine {name : String} (h : '\r' ∉ name.toList) :
    13 ∉ Utf8.encode (dispositionLine name) := by
  refine cr_not_mem_encode ?_
  have h₁ : '\r' ∉ "Content-Disposition: form-data; name=\"".toList := by
    simp only [String.reduceToList]; decide
  have h₂ : '\r' ∉ "\"".toList := by simp only [String.reduceToList]; decide
  unfold dispositionLine
  rw [String.toList_append, String.toList_append, List.mem_append, List.mem_append]
  exact fun h' => h'.elim (fun h' => h'.elim h₁ h) h₂

theorem dashes_not_infix_disposition :
    ¬ dashes <:+: Utf8.encode "Content-Disposition: form-data; name=" := by
  rw [encode_ascii_eq dispositionStart_ascii]
  simp only [String.reduceToList, List.map_cons, List.map_nil, dashes]
  decide

/-! ### Reading one part -/

theorem crlfLines_go_append {x : List UInt8} (hx : 13 ∉ x) (acc r : List UInt8) :
    crlfLines.go acc (x ++ r) = crlfLines.go (x.reverse ++ acc) r := by
  induction x generalizing acc with
  | nil => rfl
  | cons b x ih =>
    have hb : b ≠ 13 := fun h => hx (h ▸ List.mem_cons_self ..)
    rw [List.cons_append, crlfLines.go.eq_3 _ _ _ (fun _ h _ => hb h),
      ih (fun h => hx (List.mem_cons_of_mem _ h))]
    simp

theorem crlfLines_two {a c : List UInt8} (ha : 13 ∉ a) (hc : 13 ∉ c) :
    crlfLines (a ++ crlf ++ c) = [a, c] := by
  unfold crlfLines
  rw [List.append_assoc, crlfLines_go_append ha, show crlf ++ c = 13 :: 10 :: c from rfl,
    crlfLines.go.eq_2, ← List.append_nil c, crlfLines_go_append hc, crlfLines.go.eq_1]
  simp

theorem decodeLossy_nil : Utf8.decodeLossy [] = "" := by
  rw [Utf8.decodeLossy, Utf8.pieces.eq_def]
  rfl

theorem splitOnce_dispositionLine (name : String) :
    ∃ v, Text.splitOnce (Utf8.decodeLossy (Utf8.encode (dispositionLine name))) ':' =
      some ("Content-Disposition", v) := by
  have hc : ':' ∈ "Content-Disposition: form-data; name=\"".toList := by
    simp only [String.reduceToList]; decide
  have hs : Text.splitOnce "Content-Disposition: form-data; name=\"" ':' =
      some ("Content-Disposition", " form-data; name=\"") := by decide
  unfold dispositionLine
  rw [Utf8.encode_append, Utf8.encode_append, List.append_assoc,
    Utf8.decodeLossy_encode_ascii_append dispositionOpen_ascii, splitOnce_append hc, hs]
  exact ⟨_, rfl⟩

theorem splitOnce_typeLine (f : Format) :
    Text.splitOnce (Utf8.decodeLossy (Utf8.encode (typeLine f))) ':' =
      some ("Content-Type", " " ++ f.mime) := by
  have hc : ':' ∈ "Content-Type: ".toList := by simp only [String.reduceToList]; decide
  have hs : Text.splitOnce "Content-Type: " ':' = some ("Content-Type", " ") := by decide
  have hd := Utf8.decodeLossy_encode_ascii_append (typeLine_ascii f) []
  rw [List.append_nil, decodeLossy_nil, String.append_empty] at hd
  rw [hd, typeLine, splitOnce_append hc, hs]
  rfl

theorem ofMime_typeLine (f : Format) : Format.ofMime (" " ++ f.mime) = carriedFormat f := by
  cases f
  · rw [show " " ++ Format.json.mime = " application/json" by decide]; decide
  · rw [show " " ++ Format.xml.mime = " application/xml" by decide]; decide
  · rw [show " " ++ Format.text.mime = " text/plain" by decide]; decide
  · rw [show " " ++ Format.binary.mime = " application/octet-stream" by decide]; decide
  · rw [show " " ++ Format.unknown.mime = " application/octet-stream" by decide]; decide

theorem headerFormat_headLines {name : String} (h : '\r' ∉ name.toList) (f dflt : Format) :
    headerFormat (headLines name f) dflt = carriedFormat f := by
  obtain ⟨v, hv⟩ := splitOnce_dispositionLine name
  have hkey : Text.eqIgnoreAsciiCase (Text.trim "Content-Disposition") "content-type" = false := by
    decide
  have hkey' : Text.eqIgnoreAsciiCase (Text.trim "Content-Type") "content-type" = true := by
    decide
  unfold headerFormat headLines
  rw [crlfLines_two (cr_not_mem_dispositionLine h) (cr_not_mem_typeLine f)]
  simp only [List.filterMap_cons, List.filterMap_nil, hv, splitOnce_typeLine, List.find?_cons,
    hkey, hkey', ofMime_typeLine]
  cases f <;> rfl

theorem blank_line_first {name : String} (h : '\r' ∉ name.toList) (f : Format) :
    ¬ [13, 10, 13, 10] <:+: headLines name f ++ [13, 10, 13] := by
  have hP : 13 ∉ Utf8.encode "Content-Disposition: form-data; name=" := by
    refine cr_not_mem_encode ?_
    simp only [String.reduceToList]; decide
  have hsplit : headLines name f ++ [13, 10, 13] =
      (Utf8.encode "Content-Disposition: form-data; name=" ++ 34 :: Utf8.encode name) ++
        34 :: (crlf ++ Utf8.encode (typeLine f) ++ [13, 10, 13]) := by
    rw [headLines, dispositionLine_bytes]
    simp only [List.append_assoc, List.cons_append, List.nil_append]
  rw [hsplit]
  intro hin
  rcases infix_of_infix_append_cons (by decide) hin with hl | hr
  · have h13 := hl.subset (List.mem_cons_self ..)
    simp only [List.mem_append, List.mem_cons] at h13
    rcases h13 with h13 | h13 | h13
    · exact hP h13
    · cases h13
    · exact cr_not_mem_encode h h13
  · exact blank_line_not_infix_typeLine f hr

theorem decodePart_part {name : String} (h : '\r' ∉ name.toList) (d : Document) (dflt : Format) :
    decodePart (headLines name d.format ++ crlf ++ crlf ++ d.bytes) dflt = .ok (carried d) := by
  have hdrop : (headLines name d.format ++ crlf ++ crlf ++ d.bytes).drop 0 =
      headLines name d.format ++ [13, 10, 13, 10] ++ d.bytes := by
    simp [crlf]
  have hfind := find_of_drop (by simp) hdrop (blank_line_first h d.format)
  rw [Nat.zero_add] at hfind
  unfold decodePart
  rw [hfind, show headLines name d.format ++ crlf ++ crlf ++ d.bytes =
    headLines name d.format ++ ([13, 10, 13, 10] ++ d.bytes) by simp [crlf]]
  dsimp only
  rw [List.take_left' rfl, ← List.append_assoc, List.drop_left' (by simp),
    headerFormat_headLines h]
  rfl

/-! ### Reading a body -/

@[simp] theorem dropTrailingCrlf_append (x : List UInt8) : dropTrailingCrlf (x ++ crlf) = x := by
  unfold dropTrailingCrlf
  rw [if_pos (List.isSuffixOf_iff_suffix.2 (List.suffix_append x crlf))]
  simp [crlf]

theorem delimiter_first {B name : String} {d : Document} (hcr : '\r' ∉ B.toList)
    (hq : '"' ∉ B.toList) (hname : ¬ delimiter B <:+: Utf8.encode name)
    (hdoc : ¬ delimiter B <:+: d.bytes) :
    ¬ delimiter B <:+: (headLines name d.format ++ crlf ++ crlf ++ d.bytes ++ crlf) ++
      (delimiter B).dropLast := by
  have h13 := cr_not_mem_delimiter hcr
  have h45 := delimiter_head B
  have hdash : ∀ l, delimiter B <:+: l → dashes <:+: l :=
    fun l h => (List.prefix_append _ _).isInfix.trans h
  have hlines :
      (headLines name d.format ++ crlf ++ crlf ++ d.bytes ++ crlf) ++ (delimiter B).dropLast =
      Utf8.encode (dispositionLine name) ++ crlf ++ (Utf8.encode (typeLine d.format) ++ crlf ++
        ([] ++ crlf ++ (d.bytes ++ crlf ++ (delimiter B).dropLast))) := by
    simp only [headLines, List.append_assoc, List.nil_append]
  rw [hlines]
  intro hin
  rcases infix_of_infix_crlf h13 h45 hin with hD | hin
  · rw [dispositionLine_bytes] at hD
    rcases infix_of_infix_append_cons (quote_not_mem_delimiter hq) hD with hP | hN
    · exact dashes_not_infix_disposition (hdash _ hP)
    · rcases infix_of_infix_append_cons (quote_not_mem_delimiter hq) hN with hN | hN
      · exact hname hN
      · exact delimiter_ne_nil B (List.eq_nil_of_infix_nil hN)
  rcases infix_of_infix_crlf h13 h45 hin with hT | hin
  · exact dashes_not_infix_typeLine d.format (hdash _ hT)
  rcases infix_of_infix_crlf h13 h45 hin with hE | hin
  · exact delimiter_ne_nil B (List.eq_nil_of_infix_nil hE)
  rcases infix_of_infix_crlf h13 h45 hin with hC | hL
  · exact hdoc hC
  · have hle := hL.length_le
    have hpos := List.length_pos_iff.2 (delimiter_ne_nil B)
    rw [List.length_dropLast] at hle
    omega

theorem partsFrom_part {body text rest : List UInt8} {B : String} {dflt : Format}
    {hd : 2 ≤ (delimiter B).length} {pos : Nat} {acc : List Document} {d : Document}
    (hbody : body.drop pos = delimiter B ++ crlf ++ (text ++ crlf) ++ delimiter B ++ rest)
    (hfirst : ¬ delimiter B <:+: (text ++ crlf) ++ (delimiter B).dropLast)
    (hpart : decodePart text dflt = .ok d) :
    partsFrom body (delimiter B) dflt hd pos acc =
      partsFrom body (delimiter B) dflt hd (pos + (delimiter B ++ crlf ++ (text ++ crlf)).length)
        (d :: acc) := by
  have hafter : body.drop (pos + (delimiter B).length) =
      crlf ++ (text ++ crlf) ++ delimiter B ++ rest := by
    rw [← List.drop_drop, hbody]
    simp
  have hstart : body.drop (pos + (delimiter B).length + 2) =
      (text ++ crlf) ++ delimiter B ++ rest := by
    rw [← List.drop_drop, hafter]
    simp [crlf]
  have hfind := find_of_drop (delimiter_ne_nil B) hstart hfirst
  have hline : lineEndLength (crlf ++ (text ++ crlf) ++ delimiter B ++ rest) = 2 := by
    simp [lineEndLength, crlf]
  have hopen : dashes.isPrefixOf (crlf ++ (text ++ crlf) ++ delimiter B ++ rest) = false := rfl
  have hnext : pos + (delimiter B).length + 2 + (text ++ crlf).length =
      pos + (delimiter B ++ crlf ++ (text ++ crlf)).length := by
    simp only [List.length_append, crlf, List.length_cons, List.length_nil]
    omega
  conv => lhs; rw [partsFrom]
  simp only [hafter, hline, hopen, Bool.false_eq_true, ↓reduceIte]
  split
  · next h => rw [hafter, hline, hfind] at h; cases h
  · next next h =>
    rw [hafter, hline, hfind] at h
    cases h
    rw [Nat.add_sub_cancel_left, hstart, List.append_assoc, List.take_left' rfl,
      dropTrailingCrlf_append, hpart, hnext]

theorem partsFrom_close {body : List UInt8} {B : String} {dflt : Format}
    {hd : 2 ≤ (delimiter B).length} {pos : Nat} {acc : List Document}
    (hbody : body.drop pos = delimiter B ++ dashes ++ crlf) :
    partsFrom body (delimiter B) dflt hd pos acc = .ok acc.reverse := by
  have hafter : body.drop (pos + (delimiter B).length) = dashes ++ crlf := by
    rw [← List.drop_drop, hbody, List.append_assoc, List.drop_left]
  conv => lhs; rw [partsFrom]
  simp only [hafter]
  rfl

/-- A field name and a document that a part can carry. -/
def Carries (B : String) (p : String × Document) : Prop :=
  '\r' ∉ p.1.toList ∧ ¬ delimiter B <:+: Utf8.encode p.1 ∧ ¬ delimiter B <:+: p.2.bytes

theorem parts_start_delimiter (B : String) (ps : List (String × Document)) :
    ∃ rest, ps.flatMap (fun p => encodePart B p.1 p.2) ++ (delimiter B ++ dashes ++ crlf) =
      delimiter B ++ rest := by
  cases ps with
  | nil => exact ⟨dashes ++ crlf, by simp⟩
  | cons p ps =>
    rw [List.flatMap_cons, encodePart_eq]
    simp only [List.append_assoc]
    exact ⟨_, rfl⟩

theorem partsFrom_parts {body : List UInt8} {B : String} (hcr : '\r' ∉ B.toList)
    (hq : '"' ∉ B.toList) {dflt : Format} {hd : 2 ≤ (delimiter B).length} :
    ∀ (ps : List (String × Document)) (pos : Nat) (acc : List Document),
      (∀ p ∈ ps, Carries B p) →
      body.drop pos =
        ps.flatMap (fun p => encodePart B p.1 p.2) ++ (delimiter B ++ dashes ++ crlf) →
      partsFrom body (delimiter B) dflt hd pos acc = .ok (acc.reverse ++ ps.map (carried ·.2))
  | [], pos, acc, _, hbody => by
    rw [partsFrom_close (by simpa using hbody)]
    simp
  | (name, d) :: ps, pos, acc, hps, hbody => by
    obtain ⟨hn, hdn, hdd⟩ := hps (name, d) (List.mem_cons_self ..)
    obtain ⟨rest, hrest⟩ := parts_start_delimiter B ps
    have hpart : body.drop pos = delimiter B ++ crlf ++
        ((headLines name d.format ++ crlf ++ crlf ++ d.bytes) ++ crlf) ++ delimiter B ++ rest := by
      rw [hbody, List.flatMap_cons, encodePart_eq, List.append_assoc, hrest]
      simp only [List.append_assoc]
    have hnext : body.drop (pos + (delimiter B ++ crlf ++
        ((headLines name d.format ++ crlf ++ crlf ++ d.bytes) ++ crlf)).length) =
        ps.flatMap (fun p => encodePart B p.1 p.2) ++ (delimiter B ++ dashes ++ crlf) := by
      have hlen : (encodePart B name d).length = (delimiter B ++ crlf ++
          ((headLines name d.format ++ crlf ++ crlf ++ d.bytes) ++ crlf)).length := by
        rw [encodePart_eq]
      rw [← List.drop_drop, hbody, List.flatMap_cons, ← hlen,
        List.append_assoc (encodePart B _ _), List.drop_left]
    rw [partsFrom_part hpart (delimiter_first hcr hq hdn hdd) (decodePart_part hn d dflt),
      partsFrom_parts hcr hq ps _ _ (fun p hp => hps p (List.mem_cons_of_mem _ hp)) hnext]
    simp

def parts (fields : List CallField) : List (String × Document) :=
  fields.flatMap fun f => f.value.documents.map (f.name, ·)

theorem encode_parts (fields : List CallField) (B : String) :
    encode fields B = (parts fields).flatMap (fun p => encodePart B p.1 p.2) ++
      (delimiter B ++ dashes ++ crlf) := by
  simp [encode, parts, delimiter, List.flatMap_assoc, List.flatMap_map, List.append_assoc]

theorem decode_encode {fields : List CallField} {B : String} (hcr : '\r' ∉ B.toList)
    (hq : '"' ∉ B.toList) (hp : ∀ p ∈ parts fields, Carries B p) (dflt : Format) :
    decode (encode fields B) B dflt = .ok ((fields.flatMap (·.value.documents)).map carried) := by
  obtain ⟨rest, hrest⟩ := parts_start_delimiter B (parts fields)
  rw [← encode_parts] at hrest
  have hfirst : ¬ delimiter B <:+: [] ++ (delimiter B).dropLast := fun h => by
    have hle := h.length_le
    have hpos := List.length_pos_iff.2 (delimiter_ne_nil B)
    rw [List.nil_append, List.length_dropLast] at hle
    omega
  have hstart : (encode fields B).drop 0 = [] ++ delimiter B ++ rest := by
    rw [List.drop_zero, hrest, List.nil_append]
  have hfind := find_of_drop (delimiter_ne_nil B) hstart hfirst
  rw [List.length_nil, Nat.add_zero] at hfind
  unfold decode
  simp only [show dashes ++ Utf8.encode B = delimiter B from rfl, hfind]
  rw [partsFrom_parts hcr hq (parts fields) 0 [] hp (by rw [List.drop_zero, encode_parts])]
  simp [parts, List.map_flatMap, Function.comp_def]

/-! ### Fresh boundaries and the round trip -/

def hexDigits : List Char :=
  ['0', '1', '2', '3', '4', '5', '6', '7', '8', '9', 'a', 'b', 'c', 'd', 'e', 'f']

theorem newBoundary_toList (ds : List Char) :
    (newBoundary ds).toList = "dataservices-".toList ++ ds := by
  simp [newBoundary]

theorem newBoundary_admissible {ds : List Char} (h : ∀ c ∈ ds, c ∈ hexDigits) :
    Admissible (newBoundary ds) := by
  have hpre : "dataservices-".toList =
      ['d', 'a', 't', 'a', 's', 'e', 'r', 'v', 'i', 'c', 'e', 's', '-'] := by
    simp only [String.reduceToList]
  have hnot : ∀ c, c ∉ hexDigits → c ∉ "dataservices-".toList → c ∉ (newBoundary ds).toList := by
    intro c hh hp hc
    rw [newBoundary_toList, List.mem_append] at hc
    exact hc.elim hp fun hc => hh (h c hc)
  have hblank : ∀ c ∈ hexDigits, Text.isBlank c = false := by
    simp only [hexDigits, List.mem_cons, List.not_mem_nil, or_false, forall_eq_or_imp, forall_eq]
    decide
  refine ⟨hnot _ (by decide) (by rw [hpre]; decide), hnot _ (by decide) (by rw [hpre]; decide),
    hnot _ (by decide) (by rw [hpre]; decide), ?_, ?_⟩
  · rw [newBoundary_toList, hpre, List.cons_append, List.head?_cons]
    intro c hc
    rw [Option.mem_some_iff] at hc
    subst hc
    decide
  · rw [newBoundary_toList, List.getLast?_append]
    intro c hc
    cases hl : ds.getLast? with
    | none =>
      rw [hl, hpre, Option.none_or] at hc
      rw [show c = '-' by simpa using hc.symm]
      decide
    | some x =>
      rw [hl, Option.some_or, Option.mem_some_iff] at hc
      subst hc
      exact hblank x (h x (List.mem_of_getLast? hl))

theorem dash_not_mem_encode {s : String} (h : '-' ∉ s.toList) : 45 ∉ Utf8.encode s :=
  not_mem_encode_of_ascii (b := 45) (by decide)
    (by rw [show Char.ofNat (45 : UInt8).toNat = '-' by decide]; exact h)

theorem not_infix_delimiter {B : String} {x : List UInt8} (h : 45 ∉ x) : ¬ delimiter B <:+: x :=
  fun hin => h (hin.subset (by simp [delimiter, dashes]))

/-- A form-data body decodes back to the fields it was encoded from. -/
theorem form_data_round_trip {fields : List CallField} {B : String} (hB : Admissible B)
    (hnames : ∀ f ∈ fields, '\r' ∉ f.name.toList ∧ ¬ delimiter B <:+: Utf8.encode f.name)
    (hdocs : ∀ f ∈ fields, ∀ d ∈ f.value.documents, ¬ delimiter B <:+: d.bytes) :
    (∀ ds : List Char, (∀ c ∈ ds, c ∈ hexDigits) → Admissible (newBoundary ds)) ∧
      boundaryOf (formDataType B) = some B ∧
      ∀ dflt, decode (encode fields B) B dflt =
        .ok ((fields.flatMap (·.value.documents)).map carried) := by
  have hparts : ∀ p ∈ parts fields, Carries B p := by
    intro p hp
    obtain ⟨f, hf, d, hd, rfl⟩ : ∃ f ∈ fields, ∃ d ∈ f.value.documents, (f.name, d) = p := by
      simpa [parts] using hp
    exact ⟨(hnames f hf).1, (hnames f hf).2, hdocs f hf d hd⟩
  exact ⟨fun _ => newBoundary_admissible, boundaryOf_formDataType hB,
    decode_encode hB.noCr hB.noQuote hparts⟩

theorem form_data_round_trip_fresh :
    (∀ ds : List Char, (∀ c ∈ ds, c ∈ hexDigits) → Admissible (newBoundary ds)) ∧
      boundaryOf (formDataType (newBoundary ['0', 'f'])) = some (newBoundary ['0', 'f']) ∧
      ∀ dflt, decode (encode [⟨"a", false, .multiple [⟨.json, [123, 125]⟩, ⟨.unknown, [13, 10, 13, 10]⟩]⟩,
          ⟨"b", true, .single none⟩, ⟨"c", false, .single (some ⟨.text, [104, 105, 13, 10]⟩)⟩]
          (newBoundary ['0', 'f'])) (newBoundary ['0', 'f']) dflt =
        .ok [⟨.json, [123, 125]⟩, ⟨.binary, [13, 10, 13, 10]⟩, ⟨.text, [104, 105, 13, 10]⟩] :=
  form_data_round_trip
    (newBoundary_admissible (by simp only [List.mem_cons, List.not_mem_nil, or_false,
      forall_eq_or_imp, forall_eq]; decide))
    (by
      simp only [List.mem_cons, List.not_mem_nil, or_false, forall_eq_or_imp, forall_eq]
      refine ⟨⟨?_, not_infix_delimiter (dash_not_mem_encode ?_)⟩,
        ⟨?_, not_infix_delimiter (dash_not_mem_encode ?_)⟩,
        ⟨?_, not_infix_delimiter (dash_not_mem_encode ?_)⟩⟩ <;>
        simp only [String.reduceToList] <;> decide)
    (by
      simp only [List.mem_cons, List.not_mem_nil, or_false, forall_eq_or_imp, forall_eq,
        FieldValue.documents]
      refine ⟨⟨not_infix_delimiter (by decide), not_infix_delimiter (by decide)⟩, fun _ h => ?_,
        not_infix_delimiter (by decide)⟩
      cases h)

end EndpointCall.Multipart
