import EndpointCall.Transport.Multipart
import Mathlib.Data.List.Forall2
/-! How the multipart decoder walks over a body. -/
namespace EndpointCall.Multipart

def Slice (body : List UInt8) (a b : Nat) (bs : List UInt8) : Prop :=
  a ≤ b ∧ b ≤ body.length ∧ bs = (body.drop a).take (b - a)

/-! ### Searching for the delimiter -/

theorem findFrom_some {needle : List UInt8} :
    ∀ {i : Nat} {l : List UInt8} {j : Nat}, findFrom needle i l = some j →
      i ≤ j ∧ needle <+: l.drop (j - i) ∧ ∀ k, i ≤ k → k < j → ¬ needle <+: l.drop (k - i)
  | _, [], _, h => by simp [findFrom] at h
  | i, b :: rest, j, h => by
    simp only [findFrom] at h
    split at h
    · rename_i hp
      cases h
      exact ⟨Nat.le_refl _, by simpa using hp, fun k hk hkj => absurd hkj (by omega)⟩
    · rename_i hp
      obtain ⟨hij, hat, hfirst⟩ := findFrom_some h
      refine ⟨by omega, ?_, fun k hk hkj => ?_⟩
      · have hd : j - i = (j - (i + 1)) + 1 := by omega
        rwa [hd, List.drop_succ_cons]
      · by_cases hki : k = i
        · subst hki
          simpa using hp
        · have hd : k - i = (k - (i + 1)) + 1 := by omega
          rw [hd, List.drop_succ_cons]
          exact hfirst k (by omega) hkj

theorem find_some {hay needle : List UInt8} {start j : Nat} (h : find hay needle start = some j) :
    needle <+: hay.drop j ∧ ∀ k, start ≤ k → k < j → ¬ needle <+: hay.drop k := by
  unfold find at h
  split at h
  · cases h
  obtain ⟨hsj, hat, hfirst⟩ := findFrom_some h
  have hdrop : ∀ k, start ≤ k → (hay.drop start).drop (k - start) = hay.drop k := by
    intro k hk
    rw [List.drop_drop]
    congr 1
    omega
  refine ⟨hdrop j hsj ▸ hat, fun k hk hkj => ?_⟩
  rw [← hdrop k hk]
  exact hfirst k hk hkj

/-! ### Cutting a part -/

theorem dropTrailingCrlf_eq_take (part : List UInt8) :
    ∃ m, m ≤ part.length ∧ dropTrailingCrlf part = part.take m := by
  unfold dropTrailingCrlf
  split
  · exact ⟨part.length - 2, by omega, rfl⟩
  · exact ⟨part.length, Nat.le_refl _, (List.take_length).symm⟩

theorem decodePart_bytes {part : List UInt8} {dflt : Format} {d : Document}
    (h : decodePart part dflt = .ok d) : ∃ k, k ≤ part.length ∧ d.bytes = part.drop k := by
  unfold decodePart at h
  split at h
  · rename_i split hsplit
    cases h
    have := (find_bounds hsplit).2
    exact ⟨split + 4, by simpa using this, rfl⟩
  · split at h
    · rename_i hcrlf
      cases h
      exact ⟨2, (List.isPrefixOf_iff_prefix.1 hcrlf).length_le, rfl⟩
    · cases h

theorem decodePart_error {part : List UInt8} {dflt : Format} {e : Error}
    (h : decodePart part dflt = .error e) :
    e = .content "multipart part has no header separator" := by
  unfold decodePart at h
  split at h
  · cases h
  · split at h
    · cases h
    · cases h
      rfl

theorem decodePart_slice {body : List UInt8} {a b : Nat} (hab : a ≤ b) (hb : b ≤ body.length)
    {dflt : Format} {d : Document}
    (h : decodePart (dropTrailingCrlf ((body.drop a).take (b - a))) dflt = .ok d) :
    ∃ a' b', a ≤ a' ∧ b' ≤ b ∧ Slice body a' b' d.bytes := by
  obtain ⟨m, hm, htake⟩ := dropTrailingCrlf_eq_take ((body.drop a).take (b - a))
  rw [htake] at h
  obtain ⟨k, hk, hbytes⟩ := decodePart_bytes h
  have hlen : ((body.drop a).take (b - a)).length = b - a := by
    simp only [List.length_take, List.length_drop]
    omega
  rw [hlen] at hm
  simp only [List.length_take, List.length_drop] at hk
  refine ⟨a + k, a + min m (b - a), by omega, by omega, by omega, by omega, ?_⟩
  rw [hbytes, List.take_take, List.drop_take, List.drop_drop]
  congr 1
  omega

theorem lineEndLength_no_dash {rest : List UInt8} {i : Nat} (hi : i < lineEndLength rest) :
    rest[i]? ≠ some 45 := by
  unfold lineEndLength at hi
  dsimp only at hi
  by_cases hblank : i < (rest.takeWhile (fun b => b = 32 || b = 9)).length
  · have hpre := List.takeWhile_prefix (l := rest) (fun b : UInt8 => b = 32 || b = 9)
    rw [List.getElem?_eq_getElem (Nat.lt_of_lt_of_le hblank hpre.length_le),
      ← hpre.getElem hblank]
    have hb := List.all_eq_true.1 List.all_takeWhile _ (List.getElem_mem hblank)
    intro h
    rw [Option.some.injEq] at h
    rw [h] at hb
    exact absurd hb (by decide)
  · generalize (rest.takeWhile (fun b => b = 32 || b = 9)).length = n at hi hblank
    have hat : rest[i]? = (rest.drop n)[i - n]? := by
      rw [List.getElem?_drop]
      congr 1
      omega
    rw [hat]
    split at hi
    · next t heq =>
      rw [heq]
      rcases (by omega : i - n = 0 ∨ i - n = 1) with h | h <;> simp [h]
    · next t heq =>
      rw [heq, (by omega : i - n = 0)]
      simp
    · omega

theorem lineEndLength_le (rest : List UInt8) : lineEndLength rest ≤ rest.length := by
  unfold lineEndLength
  dsimp only
  have hblank := (List.takeWhile_prefix (l := rest) (fun b : UInt8 => b = 32 || b = 9)).length_le
  generalize (rest.takeWhile (fun b => b = 32 || b = 9)).length = n at hblank ⊢
  have hdrop := List.length_drop (l := rest) (i := n)
  split
  · next t heq =>
    rw [heq] at hdrop
    simp only [List.length_cons] at hdrop
    omega
  · next t heq =>
    rw [heq] at hdrop
    simp only [List.length_cons] at hdrop
    omega
  · exact hblank

theorem not_prefix_of_head {delim l : List UInt8} {x : UInt8} (hhead : delim[0]? = some x)
    (hl : l[0]? ≠ some x) : ¬ delim <+: l := by
  rintro ⟨t, rfl⟩
  cases delim with
  | nil => cases hhead
  | cons c cs => exact hl hhead

/-! ### The walk -/

def partStart (body delim : List UInt8) (pos : Nat) : Nat :=
  pos + delim.length + lineEndLength (body.drop (pos + delim.length))

theorem partStart_le {body delim : List UInt8} {pos : Nat}
    (h : pos + delim.length ≤ body.length) : partStart body delim pos ≤ body.length := by
  have := lineEndLength_le (body.drop (pos + delim.length))
  rw [List.length_drop] at this
  unfold partStart
  omega

/-- A part cut from `a` to `b` after the delimiter at `pos`, up to the next delimiter. -/
structure Cut (body delim : List UInt8) (pos a b : Nat) : Prop where
  after : pos + delim.length ≤ a
  ordered : a ≤ b
  inside : b + delim.length ≤ body.length
  next : delim <+: body.drop b
  first : ∀ k, pos + delim.length ≤ k → k < b → ¬ delim <+: body.drop k

/-- The decoder's walk from the delimiter at `pos` to the closing one. -/
inductive Walk (body delim : List UInt8) : Nat → List (Nat × Nat) → Prop
  | close {pos : Nat} : delim ++ dashes <+: body.drop pos → Walk body delim pos []
  | cut {pos a b : Nat} {cuts : List (Nat × Nat)} :
      Cut body delim pos a b → Walk body delim b cuts → Walk body delim pos ((a, b) :: cuts)

theorem Cut.advances {body delim : List UInt8} {pos a b : Nat} (hc : Cut body delim pos a b)
    (hd : 2 ≤ delim.length) : pos < b ∧ b + delim.length ≤ body.length := by
  have := hc.after
  have := hc.ordered
  exact ⟨by omega, hc.inside⟩

/-- The rounds of the decoder's loop from the delimiter at `pos` to the one at `last`. -/
inductive Path (body delim : List UInt8) : Nat → List (Nat × Nat) → Nat → Prop
  | stop {pos : Nat} : Path body delim pos [] pos
  | cut {pos a b last : Nat} {cuts : List (Nat × Nat)} :
      Cut body delim pos a b → Path body delim b cuts last →
        Path body delim pos ((a, b) :: cuts) last

theorem le_of_prefix_drop {body delim : List UInt8} {i : Nat} (hd : 2 ≤ delim.length)
    (h : delim <+: body.drop i) : i + delim.length ≤ body.length := by
  have := h.length_le
  rw [List.length_drop] at this
  omega

theorem Path.ascending {body delim : List UInt8} (hd : 2 ≤ delim.length) {last : Nat}
    (hlast : last + delim.length ≤ body.length) :
    ∀ {pos : Nat} {cuts : List (Nat × Nat)}, Path body delim pos cuts last →
      List.IsChain (· < ·) (pos :: cuts.map Prod.snd) ∧
      ∀ q ∈ pos :: cuts.map Prod.snd, q + delim.length ≤ body.length
  | _, _, .stop => ⟨.singleton _, by simpa using hlast⟩
  | _, (a, b) :: cuts, .cut hc hp => by
    obtain ⟨hchain, hinside⟩ := Path.ascending hd hlast hp
    obtain ⟨hpb, hb⟩ := hc.advances hd
    refine ⟨List.IsChain.cons_cons hpb hchain, ?_⟩
    simp only [List.map_cons, List.mem_cons, forall_eq_or_imp] at hinside ⊢
    exact ⟨by omega, hinside⟩

theorem Walk.path {body delim : List UInt8} :
    ∀ {pos : Nat} {cuts : List (Nat × Nat)}, Walk body delim pos cuts →
      ∃ last, Path body delim pos cuts last ∧ delim ++ dashes <+: body.drop last
  | pos, _, .close h => ⟨pos, .stop, h⟩
  | _, _, .cut hc hw => by
    obtain ⟨last, hp, h⟩ := hw.path
    exact ⟨last, .cut hc hp, h⟩

theorem Walk.ascending {body delim : List UInt8} (hd : 2 ≤ delim.length) {pos : Nat}
    {cuts : List (Nat × Nat)} (hw : Walk body delim pos cuts) :
    List.IsChain (· < ·) (pos :: cuts.map Prod.snd) ∧
      ∀ q ∈ pos :: cuts.map Prod.snd, q + delim.length ≤ body.length := by
  obtain ⟨last, hp, hclose⟩ := hw.path
  exact hp.ascending hd (le_of_prefix_drop hd ((List.prefix_append delim dashes).trans hclose))

theorem cut_of_find {body delim : List UInt8} {pos next : Nat} (hhead : delim[0]? = some 45)
    (hnext : find body delim (partStart body delim pos) = some next) :
    Cut body delim pos (partStart body delim pos) next := by
  obtain ⟨hnat, hfirst⟩ := find_some hnext
  obtain ⟨hstart, hinside⟩ := find_bounds hnext
  refine ⟨Nat.le_add_right _ _, hstart, hinside, hnat, fun k hk hkb => ?_⟩
  by_cases hks : partStart body delim pos ≤ k
  · exact hfirst k hks hkb
  · have hi : k - (pos + delim.length) < lineEndLength (body.drop (pos + delim.length)) := by
      unfold partStart at hks
      omega
    have hk : (body.drop k)[0]? = (body.drop (pos + delim.length))[k - (pos + delim.length)]? := by
      rw [List.getElem?_drop, List.getElem?_drop]
      congr 1
      omega
    exact not_prefix_of_head hhead (hk ▸ lineEndLength_no_dash hi)

section Loop

variable {body delim : List UInt8} {dflt : Format} {hd : 2 ≤ delim.length} {pos : Nat}
  {acc : List Document}

theorem partsFrom_of_close (hclose : dashes.isPrefixOf (body.drop (pos + delim.length)) = true) :
    partsFrom body delim dflt hd pos acc = .ok acc.reverse := by
  rw [partsFrom, if_pos hclose]

theorem partsFrom_of_no_next (hopen : ¬ dashes.isPrefixOf (body.drop (pos + delim.length)) = true)
    (hnone : find body delim (partStart body delim pos) = none) :
    partsFrom body delim dflt hd pos acc =
      .error (.content "multipart body has no closing boundary") := by
  simp only [partStart] at hnone
  rw [partsFrom, if_neg hopen]
  dsimp only
  split
  · rfl
  · next next h =>
    rw [hnone] at h
    cases h

theorem partsFrom_of_next {next : Nat}
    (hopen : ¬ dashes.isPrefixOf (body.drop (pos + delim.length)) = true)
    (hnext : find body delim (partStart body delim pos) = some next) :
    partsFrom body delim dflt hd pos acc =
      match decodePart (dropTrailingCrlf ((body.drop (partStart body delim pos)).take
          (next - partStart body delim pos))) dflt with
      | .error e => .error e
      | .ok d => partsFrom body delim dflt hd next (d :: acc) := by
  simp only [partStart] at hnext ⊢
  rw [partsFrom, if_neg hopen]
  dsimp only
  split
  · next h =>
    rw [hnext] at h
    cases h
  · next next' h =>
    rw [hnext] at h
    cases h
    rfl

theorem partsFrom_of_bad_part {next : Nat} {e : Error}
    (hopen : ¬ dashes.isPrefixOf (body.drop (pos + delim.length)) = true)
    (hnext : find body delim (partStart body delim pos) = some next)
    (herr : decodePart (dropTrailingCrlf ((body.drop (partStart body delim pos)).take
        (next - partStart body delim pos))) dflt = .error e) :
    partsFrom body delim dflt hd pos acc = .error e := by
  rw [partsFrom_of_next hopen hnext, herr]

theorem partsFrom_of_part {next : Nat} {d : Document}
    (hopen : ¬ dashes.isPrefixOf (body.drop (pos + delim.length)) = true)
    (hnext : find body delim (partStart body delim pos) = some next)
    (hdec : decodePart (dropTrailingCrlf ((body.drop (partStart body delim pos)).take
        (next - partStart body delim pos))) dflt = .ok d) :
    partsFrom body delim dflt hd pos acc = partsFrom body delim dflt hd next (d :: acc) := by
  rw [partsFrom_of_next hopen hnext, hdec]

theorem prefix_close (hat : delim <+: body.drop pos)
    (hclose : dashes.isPrefixOf (body.drop (pos + delim.length)) = true) :
    delim ++ dashes <+: body.drop pos := by
  obtain ⟨rest, hrest⟩ := hat
  have hdash : dashes <+: body.drop (pos + delim.length) := List.isPrefixOf_iff_prefix.1 hclose
  rw [← List.drop_drop, ← hrest, List.drop_left] at hdash
  obtain ⟨rest', hrest'⟩ := hdash
  exact ⟨rest', by rw [← hrest, ← hrest', List.append_assoc]⟩

theorem partsFrom_walks (hhead : delim[0]? = some 45) (hat : delim <+: body.drop pos) :
    (∀ e, partsFrom body delim dflt hd pos acc = .error e →
      e = .content "multipart body has no closing boundary" ∨
      e = .content "multipart part has no header separator") ∧
    ∀ docs, partsFrom body delim dflt hd pos acc = .ok docs →
      ∃ cuts ds, Walk body delim pos cuts ∧ docs = acc.reverse ++ ds ∧
        List.Forall₂ (fun (c : Nat × Nat) (d : Document) =>
          ∃ a b, c.1 ≤ a ∧ b ≤ c.2 ∧ Slice body a b d.bytes) cuts ds := by
  induction pos, acc using partsFrom.induct body delim dflt hd with
  | case1 pos acc _ hclose =>
    rw [partsFrom_of_close hclose]
    refine ⟨fun e h => ?_, fun docs h => ?_⟩
    · cases h
    cases h
    exact ⟨[], [], .close (prefix_close hat hclose), by simp, .nil⟩
  | case2 pos acc _ hopen _ hnone =>
    rw [partsFrom_of_no_next hopen hnone]
    refine ⟨fun e h => ?_, fun docs h => ?_⟩
    · cases h
      exact .inl rfl
    · cases h
  | case3 pos acc _ hopen _ next hnext e herr =>
    rw [partsFrom_of_bad_part hopen hnext herr]
    refine ⟨fun e' h => ?_, fun docs h => ?_⟩
    · cases h
      exact .inr (decodePart_error herr)
    · cases h
  | case4 pos acc _ hopen _ next hnext d hdec ih =>
    rw [partsFrom_of_part hopen hnext hdec]
    have hcut := cut_of_find hhead hnext
    obtain ⟨herr, hok⟩ := ih hcut.next
    refine ⟨herr, fun docs h => ?_⟩
    obtain ⟨cuts, ds, hwalk, rfl, hall⟩ := hok docs h
    obtain ⟨a, b, ha, hb, hslice⟩ := decodePart_slice hcut.ordered
      (Nat.le_trans (Nat.le_add_right _ _) hcut.inside) hdec
    exact ⟨(partStart body delim pos, next) :: cuts, d :: ds, .cut hcut hwalk, by simp,
      .cons ⟨a, b, ha, hb, hslice⟩ hall⟩

theorem partsFrom_path (hhead : delim[0]? = some 45) (hat : delim <+: body.drop pos) :
    ∃ cuts last, Path body delim pos cuts last ∧ delim <+: body.drop last ∧
      (∀ docs, partsFrom body delim dflt hd pos acc = .ok docs →
        delim ++ dashes <+: body.drop last) ∧
      (partsFrom body delim dflt hd pos acc =
          .error (.content "multipart body has no closing boundary") →
        find body delim (partStart body delim last) = none) ∧
      (partsFrom body delim dflt hd pos acc =
          .error (.content "multipart part has no header separator") →
        ∃ next, Cut body delim last (partStart body delim last) next) := by
  induction pos, acc using partsFrom.induct body delim dflt hd with
  | case1 pos acc _ hclose =>
    rw [partsFrom_of_close hclose]
    refine ⟨[], pos, .stop, hat, fun _ _ => prefix_close hat hclose, ?_, ?_⟩
    · intro h
      cases h
    · intro h
      cases h
  | case2 pos acc _ hopen _ hnone =>
    rw [partsFrom_of_no_next hopen hnone]
    refine ⟨[], pos, .stop, hat, ?_, fun _ => hnone, ?_⟩
    · intro _ h
      cases h
    · intro h
      simp at h
  | case3 pos acc _ hopen _ next hnext e herr =>
    rw [partsFrom_of_bad_part hopen hnext herr, decodePart_error herr]
    refine ⟨[], pos, .stop, hat, ?_, ?_, fun _ => ⟨next, cut_of_find hhead hnext⟩⟩
    · intro _ h
      cases h
    · intro h
      simp at h
  | case4 pos acc _ hopen _ next hnext d hdec ih =>
    rw [partsFrom_of_part hopen hnext hdec]
    have hcut := cut_of_find hhead hnext
    obtain ⟨cuts, last, hp, hlast, hrest⟩ := ih hcut.next
    exact ⟨(partStart body delim pos, next) :: cuts, last, .cut hcut hp, hlast, hrest⟩

end Loop

/-- The multipart decoder walks forward inside the body, on every run. -/
theorem decode_walks_inside_body (body : List UInt8) (boundary : String) (dflt : Format) :
    (∀ e, decode body boundary dflt = .error e →
      e = .content "multipart body has no opening boundary" ∨
      e = .content "multipart body has no closing boundary" ∨
      e = .content "multipart part has no header separator") ∧
    (∀ docs, decode body boundary dflt = .ok docs →
      ∃ pos cuts, find body (dashes ++ Utf8.encode boundary) 0 = some pos ∧
        (dashes ++ Utf8.encode boundary) <+: body.drop pos ∧
        Walk body (dashes ++ Utf8.encode boundary) pos cuts ∧
        List.IsChain (· < ·) (pos :: cuts.map Prod.snd) ∧
        (∀ q ∈ pos :: cuts.map Prod.snd, q + (dashes ++ Utf8.encode boundary).length ≤ body.length) ∧
        List.Forall₂ (fun (c : Nat × Nat) (d : Document) =>
          ∃ a b, c.1 ≤ a ∧ b ≤ c.2 ∧ Slice body a b d.bytes) cuts docs) ∧
    ∀ pos, find body (dashes ++ Utf8.encode boundary) 0 = some pos →
      ∃ cuts last, Path body (dashes ++ Utf8.encode boundary) pos cuts last ∧
        List.IsChain (· < ·) (pos :: cuts.map Prod.snd) ∧
        (∀ q ∈ pos :: cuts.map Prod.snd,
          q + (dashes ++ Utf8.encode boundary).length ≤ body.length) ∧
        (dashes ++ Utf8.encode boundary) <+: body.drop last ∧
        partStart body (dashes ++ Utf8.encode boundary) last ≤ body.length ∧
        (∀ docs, decode body boundary dflt = .ok docs →
          (dashes ++ Utf8.encode boundary) ++ dashes <+: body.drop last) ∧
        (decode body boundary dflt = .error (.content "multipart body has no closing boundary") →
          find body (dashes ++ Utf8.encode boundary)
            (partStart body (dashes ++ Utf8.encode boundary) last) = none) ∧
        (decode body boundary dflt = .error (.content "multipart part has no header separator") →
          ∃ next, Cut body (dashes ++ Utf8.encode boundary) last
            (partStart body (dashes ++ Utf8.encode boundary) last) next) := by
  simp only [decode]
  split
  · next hnone =>
    refine ⟨fun e h => ?_, fun docs h => ?_, fun pos hpos => ?_⟩
    · cases h
      exact .inl rfl
    · cases h
    · rw [hnone] at hpos
      cases hpos
  · rename_i pos hpos
    have hd : 2 ≤ (dashes ++ Utf8.encode boundary).length := by simp [dashes]
    have hat := (find_some hpos).1
    obtain ⟨herr, hok⟩ := @partsFrom_walks body _ dflt hd pos [] rfl hat
    refine ⟨fun e h => .inr (herr e h), fun docs h => ?_, fun pos' hpos' => ?_⟩
    · obtain ⟨cuts, ds, hwalk, rfl, hall⟩ := hok docs h
      obtain ⟨hchain, hinside⟩ := hwalk.ascending hd
      exact ⟨pos, cuts, hpos, hat, hwalk, hchain, hinside, by simpa using hall⟩
    · obtain rfl : pos' = pos := Option.some.inj (hpos'.symm.trans hpos)
      obtain ⟨cuts, last, hp, hlast, hrest⟩ := @partsFrom_path body _ dflt hd pos' [] rfl hat
      have hin := le_of_prefix_drop hd hlast
      obtain ⟨hchain, hinside⟩ := hp.ascending hd hin
      exact ⟨cuts, last, hp, hchain, hinside, hlast, partStart_le hin, hrest⟩

end EndpointCall.Multipart
