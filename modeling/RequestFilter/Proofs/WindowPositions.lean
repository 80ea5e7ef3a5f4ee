import Mathlib.Data.List.Sort
import RequestFilter.Proofs.ByteCuts

/-!
# Where windows stand

The windows of a text are found character by character. This file finds them byte by byte: a window
is what is cut between a byte position and the one a signature further on, if anything is.

* `Signature.ascendingFrom`: the windows with their positions, character by character;
* `Signature.placed`: the same byte by byte, from the last position that leaves room for a window
  down to the first; `placed_eq`: **both are one list**;
* `Signature.windows_placed`: **the windows of a text are its stretches of eight bytes, each at its
  position, the last position first.**
-/

namespace RequestFilter

namespace Signature

/-! ## 1. Character by character -/

/-- The windows of a text that stands at a byte position, each with the position it starts at. -/
def ascendingFrom (p : Nat) : Text → List (Nat × Text)
  | [] => []
  | c :: rest =>
    ((Text.takeBytes size (c :: rest)).map (p, ·)).toList ++ ascendingFrom (p + c.utf8Size) rest

theorem map_snd_ascendingFrom (p : Nat) (t : Text) :
    (ascendingFrom p t).map Prod.snd = ascending t := by
  induction t generalizing p with
  | nil => rfl
  | cons c rest ih =>
    rw [ascendingFrom, ascending, List.map_append, ih]
    cases Text.takeBytes size (c :: rest) <;> rfl

/-- The window a text starts with. -/
theorem mem_toList_takeBytes {p q : Nat} {t w : Text} :
    (q, w) ∈ ((Text.takeBytes size t).map (p, ·)).toList ↔
      w.byteSize = size ∧ w <+: t ∧ p = q := by
  rw [Option.mem_toList, Option.map_eq_some_iff]
  constructor
  · rintro ⟨v, hv, heq⟩
    obtain ⟨rfl, rfl⟩ := Prod.mk.inj heq
    obtain ⟨hpre, hsize⟩ := Text.takeBytes_eq_some.mp hv
    exact ⟨hsize, hpre, rfl⟩
  · rintro ⟨hsize, hpre, rfl⟩
    exact ⟨w, Text.takeBytes_eq_some.mpr ⟨hpre, hsize⟩, rfl⟩

/-- Every stretch of eight bytes, at its position. -/
theorem mem_ascendingFrom {p q : Nat} {t w : Text} : (q, w) ∈ ascendingFrom p t ↔
    w.byteSize = size ∧ ∃ a b, t = a ++ w ++ b ∧ p + a.byteSize = q := by
  induction t generalizing p with
  | nil =>
    constructor
    · intro h
      cases h
    · rintro ⟨hsize, a, b, h, -⟩
      obtain ⟨haw, -⟩ := List.append_eq_nil_iff.mp h.symm
      obtain ⟨-, rfl⟩ := List.append_eq_nil_iff.mp haw
      cases hsize
  | cons c rest ih =>
    rw [ascendingFrom, List.mem_append, mem_toList_takeBytes, ih, ← and_or_left]
    refine and_congr_right fun _ => ?_
    constructor
    · rintro (⟨⟨b, h⟩, rfl⟩ | ⟨a, b, rfl, rfl⟩)
      · exact ⟨[], b, h.symm, rfl⟩
      · exact ⟨c :: a, b, rfl, by rw [Text.byteSize_cons]; omega⟩
    · rintro ⟨a, b, h, rfl⟩
      cases a with
      | nil => exact Or.inl ⟨⟨b, h.symm⟩, rfl⟩
      | cons d a =>
        obtain ⟨rfl, rfl⟩ := List.cons.inj h
        exact Or.inr ⟨a, b, rfl, by rw [Text.byteSize_cons]; omega⟩

theorem pairwise_ascendingFrom (p : Nat) (t : Text) :
    (ascendingFrom p t).Pairwise (fun first next => first.1 < next.1) := by
  induction t generalizing p with
  | nil => exact List.Pairwise.nil
  | cons c rest ih =>
    rw [ascendingFrom, List.pairwise_append]
    refine ⟨?_, ih _, ?_⟩
    · cases Text.takeBytes size (c :: rest)
      · exact List.Pairwise.nil
      · exact List.pairwise_singleton _ _
    · intro first hfirst next hnext
      obtain ⟨-, -, hp⟩ := mem_toList_takeBytes.mp hfirst
      obtain ⟨-, a, -, -, hq⟩ := mem_ascendingFrom.mp hnext
      have hpos := Char.utf8Size_pos c
      omega

/-! ## 2. Byte by byte -/

/-- The byte positions of a text of `n` bytes that leave room for a window, last one first. -/
def starts (n : Nat) : List Nat := if size ≤ n then (List.range (n - size + 1)).reverse else []

theorem mem_starts {n p : Nat} : p ∈ starts n ↔ p + size ≤ n := by
  unfold starts
  split
  · rw [List.mem_reverse, List.mem_range]
    omega
  · simp only [List.not_mem_nil, false_iff]
    omega

theorem pairwise_starts (n : Nat) : (starts n).Pairwise (fun first next => next < first) := by
  unfold starts
  split
  · exact List.pairwise_reverse.mpr List.pairwise_lt_range
  · exact List.Pairwise.nil

/-- What is cut between a byte position and the one a signature further on, with the position, for
    all positions, last one first. Where one of the two lies inside a character nothing is cut. -/
def placed (t : Text) : List (Nat × Text) :=
  (starts t.byteSize).filterMap fun p => (t.slice? p (p + size)).map (p, ·)

theorem mem_placed {t w : Text} {p : Nat} : (p, w) ∈ placed t ↔ t.slice? p (p + size) = some w := by
  rw [placed, List.mem_filterMap]
  constructor
  · rintro ⟨q, -, h⟩
    obtain ⟨v, hslice, heq⟩ := Option.map_eq_some_iff.mp h
    obtain ⟨rfl, rfl⟩ := Prod.mk.inj heq
    exact hslice
  · intro h
    obtain ⟨a, b, rfl, rfl, hsize⟩ := Text.slice?_eq_some.mp h
    refine ⟨a.byteSize, mem_starts.mpr ?_, by rw [h]; rfl⟩
    rw [Text.byteSize_append, Text.byteSize_append]
    omega

/-- What is placed is a stretch of eight bytes, behind as many bytes as its position says. -/
theorem mem_placed_iff {t w : Text} {p : Nat} : (p, w) ∈ placed t ↔
    w.byteSize = size ∧ ∃ a b, t = a ++ w ++ b ∧ a.byteSize = p := by
  rw [mem_placed, Text.slice?_eq_some]
  constructor
  · rintro ⟨a, b, rfl, rfl, hsize⟩
    exact ⟨Nat.add_left_cancel hsize, a, b, rfl, rfl⟩
  · rintro ⟨hsize, a, b, rfl, rfl⟩
    exact ⟨a, b, rfl, rfl, by rw [hsize]⟩

theorem pairwise_placed (t : Text) :
    (placed t).Pairwise (fun first next => next.1 < first.1) := by
  refine List.Pairwise.filterMap _ ?_ (pairwise_starts t.byteSize)
  intro p q hlt first hfirst next hnext
  obtain ⟨-, -, rfl⟩ := Option.map_eq_some_iff.mp hfirst
  obtain ⟨-, -, rfl⟩ := Option.map_eq_some_iff.mp hnext
  exact hlt

/-- **Byte by byte the same windows are found at the same positions.** Two lists whose positions
    fall are equal once they have the same members. -/
theorem placed_eq (t : Text) : placed t = (ascendingFrom 0 t).reverse := by
  have hantisymm : Std.Antisymm fun first next : Nat × Text => next.1 < first.1 :=
    ⟨fun _ _ h h' => absurd h (Nat.lt_asymm h')⟩
  have hirrefl : Std.Irrefl fun first next : Nat × Text => next.1 < first.1 :=
    ⟨fun _ => Nat.lt_irrefl _⟩
  refine List.Pairwise.eq_of_mem_iff (pairwise_placed t)
    (List.pairwise_reverse.mpr (pairwise_ascendingFrom 0 t)) fun ⟨p, w⟩ => ?_
  rw [mem_placed_iff, List.mem_reverse, mem_ascendingFrom]
  simp only [Nat.zero_add]

theorem map_snd_placed (t : Text) : (placed t).map Prod.snd = windows t := by
  rw [placed_eq, List.map_reverse, map_snd_ascendingFrom, windows]

/-! ## 3. The windows of a text -/

/-- A text has no windows if no two of its boundaries are a signature apart, and only then. -/
theorem windows_eq_nil_iff {t : Text} : windows t = [] ↔
    ∀ p, t.isBoundary p = true → t.isBoundary (p + size) = false := by
  rw [← map_snd_placed, List.map_eq_nil_iff, List.eq_nil_iff_forall_not_mem]
  constructor
  · intro h p hstart
    rw [Bool.eq_false_iff]
    intro hend
    obtain ⟨w, hw⟩ := Text.exists_slice?_iff.mpr ⟨Nat.le_add_right p size, hstart, hend⟩
    exact h (p, w) (mem_placed.mpr hw)
  · rintro h ⟨p, w⟩ hmem
    obtain ⟨-, hstart, hend⟩ := Text.slice?_bounds (mem_placed.mp hmem)
    rw [h p hstart] at hend
    cases hend

/-- **The windows of a text are its stretches of eight bytes.** They are what is cut byte by byte
    (first), each position is further to the front than the one before (second), and at a position
    there stands a window if and only if it has eight bytes and the text goes on with it behind that
    many bytes (third). So a text of eight bytes is a window if and only if it is a stretch of the
    text (fourth), and there are no windows exactly if no two places between characters are eight
    bytes apart (fifth), as in a text of fewer than eight bytes (sixth). -/
theorem windows_placed (t : Text) :
    windows t = (placed t).map Prod.snd ∧
    (placed t).Pairwise (fun first next => next.1 < first.1) ∧
    (∀ p w, (p, w) ∈ placed t ↔ w.byteSize = 8 ∧ ∃ a b, t = a ++ w ++ b ∧ a.byteSize = p) ∧
    (∀ w, w ∈ windows t ↔ w.byteSize = 8 ∧ w <:+: t) ∧
    (windows t = [] ↔ ∀ p, t.isBoundary p = true → t.isBoundary (p + 8) = false) ∧
    (t.byteSize < 8 → windows t = []) := by
  refine ⟨(map_snd_placed t).symm, pairwise_placed t, fun p w => mem_placed_iff,
    fun w => mem_windows.trans And.comm, windows_eq_nil_iff, fun hshort => ?_⟩
  rw [List.eq_nil_iff_forall_not_mem]
  intro w hw
  obtain ⟨⟨a, b, rfl⟩, hsize⟩ := mem_windows.mp hw
  rw [Text.byteSize_append, Text.byteSize_append, hsize, size] at hshort
  omega

/-- Three characters of six bytes have no window; nine bytes have one, since the other stretch of
    eight would end inside the last character. -/
theorem windows_placed_split :
    Text.byteSize "aé€".toList < 8 ∧ windows "aé€".toList = [] ∧
      (1, "bcdefgé".toList) ∈ placed "abcdefgé".toList ∧
      windows "abcdefgé".toList = ["bcdefgé".toList] :=
  ⟨by decide, (windows_placed _).2.2.2.2.2 (by decide),
    ((windows_placed _).2.2.1 1 _).mpr ⟨by decide, ['a'], [], by decide, by decide⟩, by decide⟩

end Signature

end RequestFilter
