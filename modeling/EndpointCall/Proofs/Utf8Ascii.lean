import EndpointCall.Text.Utf8
/-! ASCII inside UTF-8. -/
namespace EndpointCall.Utf8

theorem byteArray_toList_loop (bs : ByteArray) (i : Nat) (r : List UInt8) :
    ByteArray.toList.loop bs i r = r.reverse ++ bs.data.toList.drop i := by
  fun_induction ByteArray.toList.loop bs i r with
  | case1 i r h ih =>
    have hi : i < bs.data.toList.length := by simpa using h
    rw [ih, List.drop_eq_getElem_cons hi]
    simp [ByteArray.get!, h]
  | case2 i r h =>
    rw [List.drop_eq_nil_of_le (by simpa using Nat.le_of_not_lt h)]
    simp

theorem encode_eq (s : String) : encode s = s.toList.flatMap String.utf8EncodeChar := by
  conv => lhs; rw [← String.ofList_toList (s := s)]
  rw [encode, String.toUTF8_eq_toByteArray, String.toByteArray_ofList, List.utf8Encode,
    ByteArray.toList, byteArray_toList_loop, List.toList_data_toByteArray]
  simp

@[simp] theorem encode_append (s t : String) : encode (s ++ t) = encode s ++ encode t := by
  simp [encode_eq]

theorem or_high (x m : UInt8) (hm : 128 ≤ m.toNat) : 128 ≤ (x ||| m).toNat := by
  rw [UInt8.toNat_or]
  exact Nat.le_trans hm Nat.right_le_or

theorem high_of_mem_utf8EncodeChar {c : Char} (hc : 2 ≤ c.utf8Size) {b : UInt8}
    (hb : b ∈ String.utf8EncodeChar c) : 128 ≤ b.toNat := by
  have hsize : c.utf8Size = 2 ∨ c.utf8Size = 3 ∨ c.utf8Size = 4 := by
    have := c.utf8Size_le_four
    omega
  rcases hsize with h | h | h
  · rw [String.utf8EncodeChar_eq_cons_cons h] at hb
    simp only [List.mem_cons, List.not_mem_nil, or_false] at hb
    rcases hb with rfl | rfl <;> exact or_high _ _ (by decide)
  · rw [String.utf8EncodeChar_eq_cons_cons_cons h] at hb
    simp only [List.mem_cons, List.not_mem_nil, or_false] at hb
    rcases hb with rfl | rfl | rfl <;> exact or_high _ _ (by decide)
  · rw [String.utf8EncodeChar_eq_cons_cons_cons_cons h] at hb
    simp only [List.mem_cons, List.not_mem_nil, or_false] at hb
    rcases hb with rfl | rfl | rfl | rfl <;> exact or_high _ _ (by decide)

theorem toUInt8_toNat {c : Char} (h : c.toNat < 128) : c.val.toUInt8.toNat = c.toNat := by
  simp only [UInt32.toNat_toUInt8, Char.toNat] at h ⊢
  omega

theorem mem_encode_ascii {s : String} {b : UInt8} (hb : b.toNat < 128) (h : b ∈ encode s) :
    Char.ofNat b.toNat ∈ s.toList := by
  rw [encode_eq] at h
  obtain ⟨c, hc, hbc⟩ := List.mem_flatMap.1 h
  suffices Char.ofNat b.toNat = c by rwa [this]
  by_cases h1 : c.utf8Size = 1
  · rw [String.utf8EncodeChar_eq_singleton h1, List.mem_singleton] at hbc
    subst hbc
    have hv : c.val.toNat ≤ 127 := UInt32.le_iff_toNat_le.1 (Char.utf8Size_eq_one_iff.1 h1)
    rw [toUInt8_toNat (show c.toNat < 128 by simp only [Char.toNat]; omega), Char.ofNat_toNat]
  · have := high_of_mem_utf8EncodeChar (by have := c.utf8Size_pos; omega) hbc
    omega

theorem flatMap_utf8EncodeChar_ascii {l : List Char} (h : ∀ c ∈ l, c.toNat < 128) :
    l.flatMap String.utf8EncodeChar = l.map fun c => c.val.toUInt8 := by
  induction l with
  | nil => rfl
  | cons c l ih =>
    have hc : c.utf8Size = 1 :=
      Char.utf8Size_eq_one_iff.2 (UInt32.le_iff_toNat_le.2
        (show c.val.toNat ≤ 127 from Nat.le_of_lt_succ (h c (List.mem_cons_self ..))))
    rw [List.flatMap_cons, String.utf8EncodeChar_eq_singleton hc,
      ih fun x hx => h x (List.mem_cons_of_mem _ hx)]
    rfl

theorem pieces_ascii_cons {b : UInt8} (hb : b.toNat < 128) (r : List UInt8) :
    pieces (b :: r) = .char (Char.ofNat b.toNat) :: pieces r := by
  have hw : width b = 1 := by
    simp [width, UInt8.lt_iff_toNat_lt, hb]
  rw [pieces.eq_def]
  simp only [hw, ↓reduceIte]

theorem pieces_ascii_append {bs : List UInt8} (h : ∀ b ∈ bs, b.toNat < 128) (rest : List UInt8) :
    pieces (bs ++ rest) = bs.map (fun b => .char (Char.ofNat b.toNat)) ++ pieces rest := by
  induction bs with
  | nil => rfl
  | cons b bs ih =>
    rw [List.cons_append, pieces_ascii_cons (h b (List.mem_cons_self ..)),
      ih fun x hx => h x (List.mem_cons_of_mem _ hx)]
    rfl

/-- Lossy decoding reads the bytes of an ASCII text back as the text, whatever follows. -/
theorem decodeLossy_encode_ascii_append {s : String} (hs : ∀ c ∈ s.toList, c.toNat < 128)
    (rest : List UInt8) : decodeLossy (encode s ++ rest) = s ++ decodeLossy rest := by
  have hb : ∀ b ∈ s.toList.map (fun c => c.val.toUInt8), b.toNat < 128 := by
    simp only [List.mem_map]
    rintro _ ⟨c, hc, rfl⟩
    rw [toUInt8_toNat (hs c hc)]
    exact hs c hc
  rw [encode_eq, flatMap_utf8EncodeChar_ascii hs, decodeLossy, pieces_ascii_append hb,
    List.map_append, List.map_map, List.map_map]
  conv => rhs; rw [← String.ofList_toList (s := s)]
  rw [decodeLossy, ← String.ofList_append]
  congr 2
  conv => rhs; rw [← List.map_id s.toList]
  refine List.map_congr_left fun c hc => ?_
  show Char.ofNat c.val.toUInt8.toNat = c
  rw [toUInt8_toNat (hs c hc), Char.ofNat_toNat]

end EndpointCall.Utf8
