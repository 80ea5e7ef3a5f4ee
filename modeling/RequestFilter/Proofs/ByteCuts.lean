import RequestFilter.Proofs.Stretches
import RequestFilter.Proofs.WrittenText

/-!
# Cuts at byte positions

A text is a list of characters, and its positions are counted in bytes of its UTF-8 form. This file
says which byte positions a text can be cut at, and what is cut there.

* `Utf8.isTail`: a byte that continues a character; `exists_encodeChar`: **every byte of a character
  but the first one**;
* `Text.isBoundary`: a byte position at which a text may be cut, said of the byte behind it;
  `isBoundary_iff`: **these are the places between characters**;
* `Text.slice?`: the text between two byte positions, if it can be cut at both; `slice?_eq_some`:
  **what it is**;
* `Text.standsAt`: the bytes of a part stand at a byte position; `standsAt_iff`: **so do its
  characters**, since no character has the bytes of another one inside.
-/

namespace RequestFilter

namespace Utf8

/-! ## 1. The bytes of a character -/

/-- A byte that continues a character. -/
def isTail (b : UInt8) : Bool := tail.1 ≤ b.toNat && b.toNat ≤ tail.2

theorem isTail_ofNat {n : Nat} (h : n < 256) :
    isTail (UInt8.ofNat n) = true ↔ 0x80 ≤ n ∧ n ≤ 0xBF := by
  simp [isTail, tail, toNat_byte h]

/-- **Every byte of a character but the first one continues it.** -/
theorem exists_encodeChar (c : Char) : ∃ first tails, String.utf8EncodeChar c = first :: tails ∧
    isTail first = false ∧ tails.all isTail = true := by
  have hbound : c.val.toNat < 0x110000 := by
    have hvalid := c.valid
    unfold UInt32.isValidChar Nat.isValidChar at hvalid
    omega
  have htail : ∀ n tails, tails.all isTail = true →
      (UInt8.ofNat (n % 64 + 128) :: tails).all isTail = true := by
    intro n tails htails
    rw [List.all_cons, htails, Bool.and_true, isTail_ofNat (by omega)]
    omega
  have hfirst : ∀ n, n < 256 → n < 0x80 ∨ 0xBF < n → isTail (UInt8.ofNat n) = false := by
    intro n hbyte hn
    rw [Bool.eq_false_iff, Ne, isTail_ofNat hbyte]
    omega
  unfold String.utf8EncodeChar
  generalize c.val.toNat = n at hbound
  simp only
  split
  · exact ⟨_, [], rfl, hfirst n (by omega) (by omega), rfl⟩
  split
  · exact ⟨_, _, rfl, hfirst _ (by omega) (by omega), htail _ _ rfl⟩
  split
  · exact ⟨_, _, rfl, hfirst _ (by omega) (by omega), htail _ _ (htail _ _ rfl)⟩
  · exact ⟨_, _, rfl, hfirst _ (by omega) (by omega), htail _ _ (htail _ _ (htail _ _ rfl))⟩

end Utf8

namespace Text

theorem toBytes_cons (c : Char) (t : Text) :
    toBytes (c :: t) = String.utf8EncodeChar c ++ t.toBytes := rfl

theorem toBytes_append (s t : Text) : toBytes (s ++ t) = s.toBytes ++ t.toBytes :=
  List.flatMap_append

/-- A text does not begin inside a character. -/
theorem isTail_of_getElem?_toBytes {t : Text} {b : UInt8} (h : t.toBytes[0]? = some b) :
    Utf8.isTail b = false := by
  cases t with
  | nil => cases h
  | cons c rest =>
    obtain ⟨first, tails, hbytes, hfirst, -⟩ := Utf8.exists_encodeChar c
    rw [toBytes_cons, hbytes] at h
    obtain rfl := Option.some.inj h
    exact hfirst

/-! ## 2. Boundaries -/

/-- A byte position is no place inside a character: it is one of the ends of the text, or the byte
    behind it begins a character. -/
def isBoundary (t : Text) (p : Nat) : Bool :=
  p == 0 || match t.toBytes[p]? with
    | none => p == t.byteSize
    | some b => !Utf8.isTail b

theorem isBoundary_inside {c : Char} {p : Nat} (hpos : p ≠ 0) (hlt : p < c.utf8Size) (rest : Text) :
    isBoundary (c :: rest) p = false := by
  obtain ⟨first, tails, hbytes, -, htails⟩ := Utf8.exists_encodeChar c
  have hsize : tails.length + 1 = c.utf8Size := by
    rw [← String.length_utf8EncodeChar, hbytes, List.length_cons]
  obtain ⟨q, rfl⟩ := Nat.exists_eq_succ_of_ne_zero hpos
  have hq : q < tails.length := by omega
  have hbyte : (toBytes (c :: rest))[q + 1]? = some tails[q] := by
    rw [toBytes_cons, hbytes, List.cons_append, List.getElem?_cons_succ,
      List.getElem?_append_left hq, List.getElem?_eq_getElem hq]
  have htail := List.all_eq_true.mp htails _ (List.getElem_mem hq)
  simp [isBoundary, hbyte, htail]

theorem isBoundary_behind (c : Char) (rest : Text) (p : Nat) :
    isBoundary (c :: rest) (c.utf8Size + p) = isBoundary rest p := by
  have hpos := Char.utf8Size_pos c
  have hbyte : (toBytes (c :: rest))[c.utf8Size + p]? = (toBytes rest)[p]? := by
    rw [toBytes_cons, List.getElem?_append_right (by simp [String.length_utf8EncodeChar]),
      String.length_utf8EncodeChar, Nat.add_sub_cancel_left]
  unfold isBoundary
  rw [hbyte, byteSize_cons, beq_eq_false_iff_ne.mpr (by omega : c.utf8Size + p ≠ 0), Bool.false_or]
  -- at the start of `rest` its first byte says what is said of the position itself
  cases hp : (toBytes rest)[p]? with
  | none =>
    have hend : rest.byteSize ≤ p := by rwa [← length_toBytes, ← List.getElem?_eq_none_iff]
    rw [Bool.eq_iff_iff]
    simp only [Bool.or_eq_true, beq_iff_eq]
    omega
  | some b =>
    by_cases hzero : p = 0
    · subst hzero
      simp [isTail_of_getElem?_toBytes hp]
    · simp [hzero]

/-- **The boundaries of a text are the places between its characters.** -/
theorem isBoundary_iff {t : Text} {p : Nat} :
    t.isBoundary p = true ↔ ∃ a b, t = a ++ b ∧ a.byteSize = p := by
  induction t generalizing p with
  | nil =>
    constructor
    · intro h
      have hp : p = 0 := by simpa [isBoundary, toBytes] using h
      exact ⟨[], [], rfl, hp.symm⟩
    · rintro ⟨a, b, h, rfl⟩
      obtain ⟨rfl, -⟩ := List.append_eq_nil_iff.mp h.symm
      rfl
  | cons c rest ih =>
    constructor
    · intro h
      rcases Nat.lt_or_ge p c.utf8Size with hlt | hge
      · by_cases hzero : p = 0
        · exact ⟨[], c :: rest, rfl, hzero.symm⟩
        · rw [isBoundary_inside hzero hlt] at h
          cases h
      · obtain ⟨q, rfl⟩ := Nat.exists_eq_add_of_le hge
        rw [isBoundary_behind] at h
        obtain ⟨a, b, rfl, rfl⟩ := ih.mp h
        exact ⟨c :: a, b, rfl, rfl⟩
    · rintro ⟨a, b, h, rfl⟩
      cases a with
      | nil => rfl
      | cons d a =>
        obtain ⟨rfl, rfl⟩ := List.cons.inj h
        rw [byteSize_cons, isBoundary_behind]
        exact ih.mpr ⟨a, b, rfl, rfl⟩

/-! ## 3. Slices -/

/-- The text between two byte positions; none if they are in the wrong order or one of them lies
    inside a character or behind the end. -/
def slice? (t : Text) (i j : Nat) : Option Text :=
  if i ≤ j ∧ t.isBoundary i ∧ t.isBoundary j then ofBytes? ((t.toBytes.drop i).take (j - i))
  else none

/-- Of two starts of a text the shorter one is a start of the other. -/
theorem prefix_of_byteSize_le {a b t : Text} (ha : a <+: t) (hb : b <+: t)
    (h : a.byteSize ≤ b.byteSize) : a <+: b := by
  rcases List.prefix_or_prefix_of_prefix ha hb with hab | hba
  · exact hab
  · obtain ⟨c, rfl⟩ : ∃ c : Text, b ++ c = a := hba
    rw [byteSize_append] at h
    obtain rfl : c = [] := byteSize_eq_zero.mp (by omega)
    simp

/-- Two boundaries cut a text in three. -/
theorem exists_of_boundaries {t : Text} {i j : Nat} (hij : i ≤ j) (hstart : t.isBoundary i = true)
    (hend : t.isBoundary j = true) :
    ∃ a w b, t = a ++ w ++ b ∧ a.byteSize = i ∧ i + w.byteSize = j := by
  obtain ⟨a, behind, rfl, rfl⟩ := isBoundary_iff.mp hstart
  obtain ⟨front, b, hfront, rfl⟩ := isBoundary_iff.mp hend
  obtain ⟨w, rfl⟩ := prefix_of_byteSize_le (List.prefix_append a behind) ⟨b, hfront.symm⟩ hij
  exact ⟨a, w, b, hfront, rfl, (byteSize_append a w).symm⟩

theorem slice?_bounds {t w : Text} {i j : Nat} (h : t.slice? i j = some w) :
    i ≤ j ∧ t.isBoundary i = true ∧ t.isBoundary j = true := by
  rw [slice?, Option.ite_none_right_eq_some] at h
  exact h.1

theorem slice?_append (a w b : Text) :
    slice? (a ++ w ++ b) a.byteSize (a.byteSize + w.byteSize) = some w := by
  have hstart : (a ++ w ++ b).isBoundary a.byteSize = true :=
    isBoundary_iff.mpr ⟨a, w ++ b, List.append_assoc .., rfl⟩
  have hend : (a ++ w ++ b).isBoundary (a.byteSize + w.byteSize) = true :=
    isBoundary_iff.mpr ⟨a ++ w, b, rfl, byteSize_append a w⟩
  rw [slice?, if_pos ⟨Nat.le_add_right .., hstart, hend⟩, Nat.add_sub_cancel_left,
    List.append_assoc, toBytes_append, ← length_toBytes a, List.drop_left, toBytes_append,
    ← length_toBytes w, List.take_left, ofBytes?_toBytes]

/-- **What a slice is**: the text between a part of the one size and the rest behind the other. -/
theorem slice?_eq_some {t w : Text} {i j : Nat} : t.slice? i j = some w ↔
    ∃ a b, t = a ++ w ++ b ∧ a.byteSize = i ∧ i + w.byteSize = j := by
  constructor
  · intro h
    obtain ⟨hij, hstart, hend⟩ := slice?_bounds h
    obtain ⟨a, v, b, rfl, rfl, rfl⟩ := exists_of_boundaries hij hstart hend
    rw [slice?_append] at h
    obtain rfl := Option.some.inj h
    exact ⟨a, b, rfl, rfl, rfl⟩
  · rintro ⟨a, b, rfl, rfl, rfl⟩
    exact slice?_append a w b

/-- A text can be cut between any two of its boundaries. -/
theorem exists_slice?_iff {t : Text} {i j : Nat} : (∃ w, t.slice? i j = some w) ↔
    i ≤ j ∧ t.isBoundary i = true ∧ t.isBoundary j = true := by
  constructor
  · rintro ⟨w, h⟩
    exact slice?_bounds h
  · rintro ⟨hij, hstart, hend⟩
    obtain ⟨a, w, b, rfl, rfl, rfl⟩ := exists_of_boundaries hij hstart hend
    exact ⟨w, slice?_append a w b⟩

/-! ## 4. Occurrences -/

/-- The bytes of a text are the start of those of another one only if the text is. -/
theorem toBytes_prefix_iff {s t : Text} : s.toBytes <+: t.toBytes ↔ s <+: t := by
  constructor
  · rintro ⟨bytes, h⟩
    have hdecode := congrArg Utf8.decode h
    rw [decode_toBytes_append, decode_toBytes] at hdecode
    exact (List.prefix_map_iff_of_injective fun _ _ => Option.some.inj).mp ⟨_, hdecode⟩
  · rintro ⟨rest, rfl⟩
    rw [toBytes_append]
    exact List.prefix_append _ _

/-- The bytes of a part stand at a byte position. -/
def standsAt (part t : Text) (p : Nat) : Bool := part.toBytes.isPrefixOf (t.toBytes.drop p)

/-- **Where the bytes of a part stand, its characters do.** -/
theorem standsAt_iff {part t : Text} {p : Nat} (hpart : part ≠ []) :
    standsAt part t p = true ↔ ∃ a b, t = a ++ part ++ b ∧ a.byteSize = p := by
  rw [standsAt, List.isPrefixOf_iff_prefix]
  constructor
  · intro h
    -- the first byte of the part is no tail, so the position is a boundary
    have hlength : 0 < part.toBytes.length := by
      rw [length_toBytes, Nat.pos_iff_ne_zero, Ne, byteSize_eq_zero]
      exact hpart
    have hfirst : t.toBytes[p]? = some part.toBytes[0] := by
      rw [← Nat.add_zero p, ← List.getElem?_drop]
      obtain ⟨bytes, hbytes⟩ := h
      rw [← hbytes, List.getElem?_append_left hlength, List.getElem?_eq_getElem hlength]
    have htail := isTail_of_getElem?_toBytes (List.getElem?_eq_getElem hlength)
    have hboundary : t.isBoundary p = true := by simp [isBoundary, hfirst, htail]
    obtain ⟨a, behind, rfl, rfl⟩ := isBoundary_iff.mp hboundary
    rw [toBytes_append, ← length_toBytes, List.drop_left, toBytes_prefix_iff] at h
    obtain ⟨b, rfl⟩ := h
    exact ⟨a, b, by rw [List.append_assoc], rfl⟩
  · rintro ⟨a, b, rfl, rfl⟩
    rw [List.append_assoc, toBytes_append, ← length_toBytes, List.drop_left, toBytes_append]
    exact List.prefix_append _ _

end Text

end RequestFilter
