import RequestFilter.Signature

/-!
# Stretches of a text

What the cuts of `Text.Basic` cut, said of contiguous stretches (`w <:+: t`) and starts (`w <+: t`).

* `takeBytes_eq_some`: a stretch of `n` bytes is a start of that byte size;
* `Signature.mem_windows`: the windows of a text are its stretches of eight bytes, so a window of a
  stretch is a window of the whole (`Signature.windows_mono`);
* `splitOn_eq`, `join_eq`: cut and join are those of lists, and `join_splitOn` makes them inverse;
* `notMem_of_mem_splitOn`, `infix_of_mem_splitOn`: the pieces between separators;
* `occursIn_iff`: what occurs in a text is a stretch of it;
* `infix_of_infix_join`: what lies in pieces that were joined, without the separator, lies in one of
  them.
-/

namespace RequestFilter

namespace Text

/-! ## 1. Byte sizes -/

theorem byteSize_eq_zero {t : Text} : t.byteSize = 0 ↔ t = [] := by
  cases t with
  | nil => simp
  | cons c rest =>
    have := Char.utf8Size_pos c
    simp
    omega

/-- A stretch of `n` bytes is a start of the text with that byte size. -/
theorem takeBytes_eq_some {n : Nat} {t w : Text} :
    takeBytes n t = some w ↔ w <+: t ∧ w.byteSize = n := by
  induction t generalizing n w with
  | nil =>
    cases n with
    | zero =>
      simp only [takeBytes, Option.some.injEq, List.prefix_nil, byteSize_eq_zero, and_self]
      exact eq_comm
    | succ n =>
      simp only [takeBytes, List.prefix_nil]
      constructor
      · intro h
        cases h
      · intro hx
        obtain ⟨rfl, h⟩ := hx
        cases h
  | cons c rest ih =>
    cases n with
    | zero =>
      simp only [takeBytes, Option.some.injEq, byteSize_eq_zero]
      constructor
      · intro hx
        subst hx
        exact ⟨List.nil_prefix, rfl⟩
      · intro hx
        obtain ⟨-, rfl⟩ := hx
        rfl
    | succ n =>
      simp only [takeBytes]
      constructor
      · intro h
        split at h
        · rename_i hc
          obtain ⟨v, hv, rfl⟩ := Option.map_eq_some_iff.mp h
          obtain ⟨hpre, hsize⟩ := ih.mp hv
          refine ⟨List.cons_prefix_cons.mpr ⟨rfl, hpre⟩, ?_⟩
          rw [byteSize_cons, hsize]
          omega
        · cases h
      · intro hx
        obtain ⟨hpre, hsize⟩ := hx
        cases w with
        | nil => cases hsize
        | cons d v =>
          obtain ⟨rfl, hv⟩ := List.cons_prefix_cons.mp hpre
          rw [byteSize_cons] at hsize
          rw [if_pos (by omega), ih.mpr ⟨hv, by omega⟩]
          rfl

/-! ## 2. Pieces -/

theorem splitOn_sep (sep : Char) (t : Text) : splitOn sep (sep :: t) = [] :: splitOn sep t := by
  simp [splitOn]

/-- A character that separates nothing goes to the first piece. -/
theorem splitOn_cons {sep c : Char} (h : c ≠ sep) {t piece : Text} {pieces : List Text}
    (ht : splitOn sep t = piece :: pieces) : splitOn sep (c :: t) = (c :: piece) :: pieces := by
  simp [splitOn, h, ht]

/-- The cut is the one that lists have. -/
theorem splitOn_eq (sep : Char) (t : Text) : splitOn sep t = List.splitOn sep t := by
  induction t with
  | nil => rfl
  | cons c rest ih =>
    rw [List.splitOn_cons_eq_if_modifyHead, ← ih]
    by_cases h : c = sep
    · subst h
      simp [splitOn_sep]
    · obtain ⟨piece, pieces, hp⟩ := List.exists_cons_of_ne_nil (List.splitOn_ne_nil sep rest)
      rw [← ih] at hp
      simp [splitOn_cons h hp, hp, h]

theorem join_eq (sep : Text) (pieces : List Text) : join sep pieces = sep.intercalate pieces := by
  induction pieces with
  | nil => rfl
  | cons piece others ih =>
    cases others with
    | nil => rw [join, List.intercalate_singleton]
    | cons next rest => rw [join, ih, List.intercalate_cons_cons]; simp

/-- The first piece and the others. -/
theorem exists_splitOn (sep : Char) (t : Text) :
    ∃ piece pieces, splitOn sep t = piece :: pieces := by
  rw [splitOn_eq]
  exact List.exists_cons_of_ne_nil (List.splitOn_ne_nil sep t)

theorem splitOn_eq_singleton {sep : Char} {t : Text} (h : sep ∉ t) : splitOn sep t = [t] := by
  rw [splitOn_eq, List.splitOn_eq_singleton h]

/-- A separator parts the pieces on its two sides. -/
theorem splitOn_append_sep (sep : Char) (s t : Text) :
    splitOn sep (s ++ sep :: t) = splitOn sep s ++ splitOn sep t := by
  simp only [splitOn_eq, List.splitOn_append_cons_self]

/-- The pieces joined again are the text. -/
theorem join_splitOn (sep : Char) (t : Text) : join [sep] (splitOn sep t) = t := by
  rw [splitOn_eq, join_eq, List.intercalate_splitOn]

theorem notMem_of_mem_splitOn {sep : Char} {t piece : Text} (h : piece ∈ splitOn sep t) :
    sep ∉ piece := by
  induction t generalizing piece with
  | nil =>
    obtain rfl := List.mem_singleton.mp h
    exact List.not_mem_nil
  | cons c rest ih =>
    by_cases hc : c = sep
    · subst hc
      rw [splitOn_sep] at h
      rcases List.mem_cons.mp h with rfl | h
      · exact List.not_mem_nil
      · exact ih h
    · obtain ⟨first, others, hp⟩ := exists_splitOn sep rest
      rw [splitOn_cons hc hp] at h
      rcases List.mem_cons.mp h with rfl | h
      · have hfirst : sep ∉ first := ih (hp ▸ List.mem_cons_self)
        simpa [hfirst] using Ne.symm hc
      · exact ih (hp ▸ List.mem_cons_of_mem _ h)

/-- A character of joined pieces is one of theirs or the separator. -/
theorem mem_join {sep c : Char} {pieces : List Text} (h : c ∈ join [sep] pieces) :
    c = sep ∨ ∃ piece ∈ pieces, c ∈ piece := by
  induction pieces with
  | nil => cases h
  | cons piece others ih =>
    cases others with
    | nil => exact Or.inr ⟨piece, List.mem_cons_self, h⟩
    | cons next rest =>
      rw [join, List.append_assoc, List.mem_append, List.singleton_append, List.mem_cons] at h
      · rcases h with h | h | h
        · exact Or.inr ⟨piece, List.mem_cons_self, h⟩
        · exact Or.inl h
        · exact (ih h).imp_right fun ⟨p, hp, hc⟩ => ⟨p, List.mem_cons_of_mem _ hp, hc⟩
      · exact List.cons_ne_nil next rest

/-- Every character is a separator or stands in a piece. -/
theorem exists_mem_splitOn {sep c : Char} {t : Text} (h : c ∈ t) (hc : c ≠ sep) :
    ∃ piece ∈ splitOn sep t, c ∈ piece := by
  rw [← join_splitOn sep t] at h
  exact (mem_join h).resolve_left hc

/-- Every one of joined pieces is a stretch of the text. -/
theorem infix_join (sep : Text) {pieces : List Text} {piece : Text} (h : piece ∈ pieces) :
    piece <:+: join sep pieces := by
  induction pieces with
  | nil => cases h
  | cons first others ih =>
    cases others with
    | nil =>
      obtain rfl := List.mem_singleton.mp h
      exact List.infix_refl _
    | cons next rest =>
      rw [join]
      · rcases List.mem_cons.mp h with rfl | h
        · exact ⟨[], sep ++ join sep (next :: rest), by simp⟩
        · exact (ih h).trans (List.suffix_append _ _).isInfix
      · exact List.cons_ne_nil next rest

theorem infix_of_mem_splitOn {sep : Char} {t piece : Text} (h : piece ∈ splitOn sep t) :
    piece <:+: t := by
  have hjoin := infix_join [sep] h
  rwa [join_splitOn] at hjoin

/-- A start without the separator ends before it. -/
theorem prefix_of_prefix_append_sep {sep : Char} {w s t : Text} (hsep : sep ∉ w)
    (h : w <+: s ++ sep :: t) : w <+: s := by
  induction s generalizing w with
  | nil =>
    cases w with
    | nil => exact List.nil_prefix
    | cons c v =>
      have hc : c = sep := (List.cons_prefix_cons.mp h).1
      exact absurd (hc ▸ List.mem_cons_self) hsep
  | cons c rest ih =>
    cases w with
    | nil => exact List.nil_prefix
    | cons d v =>
      obtain ⟨rfl, hv⟩ := List.cons_prefix_cons.mp h
      simp only [List.mem_cons, not_or] at hsep
      exact List.cons_prefix_cons.mpr ⟨rfl, ih hsep.2 hv⟩

/-- A stretch without the separator lies on one side of it. -/
theorem infix_or_infix_of_infix_append_sep {sep : Char} {w s t : Text} (hsep : sep ∉ w)
    (h : w <:+: s ++ sep :: t) : w <:+: s ∨ w <:+: t := by
  induction s with
  | nil =>
    rcases List.infix_cons_iff.mp h with hpre | hin
    · cases w with
      | nil => exact Or.inl (List.infix_refl [])
      | cons c v =>
        have hc : c = sep := (List.cons_prefix_cons.mp hpre).1
        exact absurd (hc ▸ List.mem_cons_self) hsep
    · exact Or.inr hin
  | cons c rest ih =>
    rw [List.cons_append] at h
    rcases List.infix_cons_iff.mp h with hpre | hin
    · exact Or.inl (prefix_of_prefix_append_sep hsep hpre).isInfix
    · rcases ih hin with hs | ht
      · exact Or.inl (List.infix_cons_iff.mpr (Or.inr hs))
      · exact Or.inr ht

/-- What occurs in a text is a stretch of it. -/
theorem occursIn_iff {part t : Text} : occursIn part t = true ↔ part <:+: t := by
  induction t with
  | nil => rw [occursIn, List.isEmpty_iff, List.infix_nil]
  | cons c rest ih =>
    rw [occursIn, Bool.or_eq_true, List.isPrefixOf_iff_prefix, ih, List.infix_cons_iff]

/-- What lies in joined pieces without holding the separator lies in one of them. -/
theorem infix_of_infix_join {sep : Char} {w : Text} (hw : w ≠ []) (hsep : sep ∉ w)
    {pieces : List Text} (h : w <:+: join [sep] pieces) : ∃ piece ∈ pieces, w <:+: piece := by
  induction pieces with
  | nil => exact absurd (List.infix_nil.mp h) hw
  | cons piece others ih =>
    cases others with
    | nil => exact ⟨piece, List.mem_cons_self, h⟩
    | cons next rest =>
      have hsplit : w <:+: piece ∨ w <:+: join [sep] (next :: rest) :=
        infix_or_infix_of_infix_append_sep hsep (by simpa [join] using h)
      rcases hsplit with hp | hr
      · exact ⟨piece, List.mem_cons_self, hp⟩
      · obtain ⟨p, hp, hw⟩ := ih hr
        exact ⟨p, List.mem_cons_of_mem _ hp, hw⟩

end Text

namespace Signature

/-! ## 3. Windows -/

theorem mem_ascending {w t : Text} : w ∈ ascending t ↔ w <:+: t ∧ w.byteSize = size := by
  induction t with
  | nil =>
    simp only [ascending, List.not_mem_nil, List.infix_nil, false_iff, not_and]
    intro hx h
    subst hx
    cases h
  | cons c rest ih =>
    rw [ascending, List.mem_append, Option.mem_toList, Text.takeBytes_eq_some, ih,
      List.infix_cons_iff, or_and_right]

/-- **The windows of a text are its stretches of eight bytes.** -/
theorem mem_windows {w t : Text} : w ∈ windows t ↔ w <:+: t ∧ w.byteSize = size := by
  rw [windows, List.mem_reverse, mem_ascending]

theorem ne_nil_of_mem_windows {w t : Text} (h : w ∈ windows t) : w ≠ [] := by
  intro hx
  subst hx
  cases (mem_windows.mp h).2

/-- A window of a stretch is a window of the whole text. -/
theorem windows_mono {w s t : Text} (hw : w ∈ windows s) (hs : s <:+: t) : w ∈ windows t := by
  obtain ⟨hin, hsize⟩ := mem_windows.mp hw
  exact mem_windows.mpr ⟨hin.trans hs, hsize⟩

end Signature

end RequestFilter
