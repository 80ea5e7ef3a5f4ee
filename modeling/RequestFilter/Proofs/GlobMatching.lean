import RequestFilter.Proofs.GlobReading

/-!
# What a glob matches

The expression of a glob without signs finds a match wherever the pieces between the stars of the
glob stand one after the other on one line.

* `Marks.Has`: a position belongs to a set of marks; `Marks.spread_succ` takes the early stop out of
  the repetition of a step;
* `Covers`: a glob covers a text character by character, a star covering any stretch of one line;
* `matchesIn_of_covers`, `matchesIn_of_covers_start`: **a covered stretch is a match**, anywhere or,
  behind an anchor, at the start;
* `InOrder`: texts stand in a text in this order without overlap; `exists_covers_of_inOrder` turns
  pieces in order into a covered stretch.

NOT here: that a text without such a stretch is not matched.
-/

namespace RequestFilter

/-! ## 1. Marks -/

namespace Marks

/-- A position belongs to the set. -/
def Has (marks : Marks) (i : Nat) : Prop := marks[i]? = some true

theorem isNonempty_of_has {marks : Marks} {i : Nat} (h : marks.Has i) : marks.isNonempty = true :=
  List.any_eq_true.mpr ⟨true, List.mem_of_getElem? h, rfl⟩

theorem has_all {text : Text} {i : Nat} (h : i ≤ text.length) : (all text).Has i := by
  unfold Has all
  rw [List.getElem?_replicate, if_pos (by omega)]

theorem length_all (text : Text) : (all text).length = text.length + 1 := List.length_replicate

theorem length_advance {set : CharSet} {text : Text} {marks : Marks}
    (h : marks.length = text.length + 1) : (advance set text marks).length = text.length + 1 := by
  simp [advance, h]

theorem length_join {marks others : Marks} (h : others.length = marks.length) :
    (join marks others).length = marks.length := by
  simp [join, h]

/-- A member of the set carries a mark over to the position behind it. -/
theorem has_advance {set : CharSet} {text : Text} {marks : Marks} {i : Nat} {c : Char}
    (hc : text[i]? = some c) (hset : set.contains c.toNat = true) (h : marks.Has i) :
    (advance set text marks).Has (i + 1) := by
  unfold Has at h ⊢
  rw [advance, List.getElem?_cons_succ, List.getElem?_zipWith, hc, h]
  simp [hset]

theorem has_join_left {marks others : Marks} (hlen : others.length = marks.length) {i : Nat}
    (h : marks.Has i) : (join marks others).Has i := by
  unfold Has at h ⊢
  obtain ⟨hi, -⟩ := List.getElem?_eq_some_iff.mp h
  rw [join, List.getElem?_zipWith, h, List.getElem?_eq_getElem (hlen ▸ hi)]
  simp

theorem has_join_right {marks others : Marks} (hlen : others.length = marks.length) {i : Nat}
    (h : others.Has i) : (join marks others).Has i := by
  unfold Has at h ⊢
  obtain ⟨hi, -⟩ := List.getElem?_eq_some_iff.mp h
  rw [join, List.getElem?_zipWith, h, List.getElem?_eq_getElem (hlen.symm ▸ hi)]
  simp

theorem spread_of_fixed {step : Marks → Marks} {marks : Marks} (h : join marks (step marks) = marks)
    (n : Nat) : spread step n marks = marks := by
  cases n with
  | zero => rfl
  | succ n => simp only [spread, h, if_true]

/-- Stopping early is as good as going on. -/
theorem spread_succ (step : Marks → Marks) (n : Nat) (marks : Marks) :
    spread step (n + 1) marks = spread step n (join marks (step marks)) := by
  rw [spread]
  split
  · rename_i h
    rw [h, spread_of_fixed h]
  · rfl

section Spread

variable {set : CharSet} {text : Text}

theorem length_spread {n : Nat} {marks : Marks} (h : marks.length = text.length + 1) :
    (spread (advance set text) n marks).length = text.length + 1 := by
  induction n generalizing marks with
  | zero => exact h
  | succ n ih =>
    rw [spread_succ]
    refine ih ?_
    rw [length_join ((length_advance h).trans h.symm), h]

/-- Marks spread over as many members of the set as there are steps. -/
theorem has_spread {n : Nat} {marks : Marks} (hlen : marks.length = text.length + 1) {i g : Nat}
    (hg : g ≤ n) (hset : ∀ k < g, ∃ c, text[i + k]? = some c ∧ set.contains c.toNat = true)
    (h : marks.Has i) : (spread (advance set text) n marks).Has (i + g) := by
  induction n generalizing marks i g with
  | zero =>
    obtain rfl : g = 0 := by omega
    exact h
  | succ n ih =>
    have hstep : (advance set text marks).length = marks.length :=
      (length_advance hlen).trans hlen.symm
    have hnext : (join marks (advance set text marks)).length = text.length + 1 := by
      rw [length_join hstep, hlen]
    rw [spread_succ]
    cases g with
    | zero =>
      exact ih hnext (Nat.zero_le n) (fun k hk => absurd hk (by omega)) (has_join_left hstep h)
    | succ g =>
      obtain ⟨c, hc, hcs⟩ := hset 0 (by omega)
      have hone : (join marks (advance set text marks)).Has (i + 1) :=
        has_join_right hstep (has_advance hc hcs h)
      have hshift : ∀ k < g, ∃ c, text[i + 1 + k]? = some c ∧ set.contains c.toNat = true := by
        intro k hk
        have := hset (k + 1) (by omega)
        rwa [show i + (k + 1) = i + 1 + k by omega] at this
      have := ih hnext (by omega) hshift hone
      rwa [show i + 1 + g = i + (g + 1) by omega] at this

end Spread

/-- The start of a text keeps its mark under the condition to be there. -/
theorem has_keep_textStart {text : Text} {marks : Marks} (h : marks.Has 0) :
    (keep .textStart none text marks).Has 0 := by
  cases marks with
  | nil => cases h
  | cons mark rest =>
    obtain rfl : mark = true := by simpa [Has] using h
    cases text <;> rfl

theorem length_keep (condition : Look) (before : Option Char) {text : Text} {marks : Marks}
    (h : marks.length = text.length + 1) :
    (keep condition before text marks).length = text.length + 1 := by
  induction text generalizing before marks with
  | nil =>
    cases marks with
    | nil => cases h
    | cons mark rest => rfl
  | cons c text ih =>
    cases marks with
    | nil => cases h
    | cons mark rest =>
      rw [keep, List.length_cons, ih _ (Nat.succ.inj h), List.length_cons]

end Marks

/-! ## 2. Covered stretches -/

namespace Glob

/-- A glob covers a text: a star covers a stretch of one line, any other character itself. -/
inductive Covers : Text → Text → Prop where
  | nil : Covers [] []
  | char {c : Char} {glob t : Text} (hc : c ≠ '*') (h : Covers glob t) : Covers (c :: glob) (c :: t)
  | star {gap glob t : Text} (hgap : '\n' ∉ gap) (h : Covers glob t) :
      Covers ('*' :: glob) (gap ++ t)

/-- A text without stars covers itself. -/
theorem covers_self {t : Text} (h : '*' ∉ t) : Covers t t := by
  induction t with
  | nil => exact .nil
  | cons c rest ih =>
    simp only [List.mem_cons, not_or] at h
    exact .char (Ne.symm h.1) (ih h.2)

theorem contains_anyChar {c : Char} (h : c ≠ '\n') :
    (CharSet.complement (.single '\n')).contains c.toNat = true := by
  have hne : c.toNat ≠ '\n'.toNat := fun e => h (Char.toNat_inj.mp e)
  rw [CharSet.contains, CharSet.contains_single, decide_eq_false hne]
  rfl

end Glob

namespace Regex

open Glob

theorem ends_concat (text : Text) (rs : List Regex) (marks : Marks) :
    (concat rs).ends text marks = rs.foldl (fun m r => r.ends text m) marks := by
  induction rs generalizing marks with
  | nil => rfl
  | cons r rs ih =>
    cases rs with
    | nil => rfl
    | cons s rs => exact ih (r.ends text marks)

/-- A character that stands for itself or for any character is matched by itself. -/
theorem has_ends_char {text : Text} {marks : Marks} {i : Nat} {c : Char} (hstar : c ≠ '*')
    (hc : text[i]? = some c) (h : marks.Has i) : ((meaning c).ends text marks).Has (i + 1) := by
  by_cases hdot : c = '.'
  · subst hdot
    exact Marks.has_advance hc (contains_anyChar (by decide)) h
  · rw [meaning_of_ne hstar hdot]
    exact Marks.has_advance hc (by simp) h

theorem length_ends_meaning {text : Text} {marks : Marks} (c : Char)
    (h : marks.length = text.length + 1) :
    ((meaning c).ends text marks).length = text.length + 1 := by
  unfold meaning
  split
  · exact Marks.length_spread h
  · exact Marks.length_advance h
  · exact Marks.length_advance h

/-- A star is matched by any stretch of one line. -/
theorem has_ends_star {text before gap after : Text} (htext : text = before ++ gap ++ after)
    (hgap : '\n' ∉ gap) {marks : Marks} (hlen : marks.length = text.length + 1)
    (h : marks.Has before.length) :
    ((meaning '*').ends text marks).Has (before ++ gap).length := by
  rw [List.length_append]
  refine Marks.has_spread hlen ?_ ?_ h
  · rw [htext, List.length_append, List.length_append]
    omega
  · intro k hk
    refine ⟨gap[k], ?_, contains_anyChar fun e => hgap (e ▸ List.getElem_mem hk)⟩
    rw [htext, List.append_assoc, List.getElem?_append_right (by omega), Nat.add_sub_cancel_left,
      List.getElem?_append_left hk, List.getElem?_eq_getElem hk]

/-- **Marks go over a covered stretch.** -/
theorem has_ends_covers {glob t : Text} (hcov : Covers glob t) {text before after : Text}
    (htext : text = before ++ t ++ after) {marks : Marks} (hlen : marks.length = text.length + 1)
    (h : marks.Has before.length) :
    ((concat (glob.map meaning)).ends text marks).Has (before ++ t).length := by
  rw [ends_concat]
  induction hcov generalizing before marks with
  | nil => simpa using h
  | @char c glob t hc _ ih =>
    rw [List.map_cons, List.foldl_cons]
    have hchar : text[before.length]? = some c := by
      rw [htext, List.append_assoc, List.getElem?_append_right (Nat.le_refl _), Nat.sub_self]
      rfl
    have hone : ((meaning c).ends text marks).Has (before ++ [c]).length := by
      rw [List.length_append]
      exact has_ends_char hc hchar h
    have := ih (by simp [htext]) (length_ends_meaning c hlen) hone
    rwa [List.append_assoc, List.singleton_append] at this
  | @star gap glob t hgap _ ih =>
    rw [List.map_cons, List.foldl_cons]
    have hone := has_ends_star (show text = before ++ gap ++ (t ++ after) by simp [htext]) hgap
      hlen h
    have := ih (by simp [htext]) (length_ends_meaning '*' hlen) hone
    rwa [List.append_assoc] at this

/-- **A covered stretch is a match.** -/
theorem matchesIn_of_covers {glob t text : Text} (hcov : Covers glob t) (h : t <:+: text) :
    (concat (glob.map meaning)).matchesIn text = true := by
  obtain ⟨before, after, htext⟩ := h
  have hstart : (Marks.all text).Has before.length :=
    Marks.has_all (by rw [← htext, List.length_append, List.length_append]; omega)
  exact Marks.isNonempty_of_has
    (has_ends_covers hcov htext.symm (Marks.length_all text) hstart)

/-- **Behind an anchor, a covered start of the text is a match.** -/
theorem matchesIn_of_covers_start {glob t text : Text} (hcov : Covers glob t) (h : t <+: text) :
    (concat (.look .textStart :: glob.map meaning)).matchesIn text = true := by
  obtain ⟨after, htext⟩ := h
  have hstart : (Marks.keep .textStart none text (Marks.all text)).Has 0 :=
    Marks.has_keep_textStart (Marks.has_all (Nat.zero_le _))
  have hend := has_ends_covers hcov (show text = [] ++ t ++ after from htext.symm)
    (Marks.length_keep .textStart none (Marks.length_all text)) hstart
  have hseq : (concat (.look .textStart :: glob.map meaning)).ends text (Marks.all text) =
      (concat (glob.map meaning)).ends text
        (Marks.keep .textStart none text (Marks.all text)) := by
    rw [ends_concat, ends_concat, List.foldl_cons]
    rfl
  exact Marks.isNonempty_of_has (hseq ▸ hend)

end Regex

/-! ## 3. Pieces in order -/

namespace Text

/-- The pieces stand in the text, each behind the one before it. -/
def InOrder : List Text → Text → Prop
  | [], _ => True
  | piece :: pieces, t => ∃ before after, t = before ++ piece ++ after ∧ InOrder pieces after

/-- The first piece starts the text, and the others stand behind it in order. -/
def StartsInOrder : List Text → Text → Prop
  | [], _ => True
  | piece :: pieces, t => ∃ after, t = piece ++ after ∧ InOrder pieces after

theorem inOrder_append {pieces : List Text} {t : Text} (h : InOrder pieces t) (before : Text) :
    InOrder pieces (before ++ t) := by
  cases pieces with
  | nil => trivial
  | cons piece pieces =>
    obtain ⟨start, after, rfl, hrest⟩ := h
    exact ⟨before ++ start, after, by simp, hrest⟩

/-- An empty piece in front asks for nothing. -/
theorem inOrder_nil_cons {pieces : List Text} {t : Text} (h : InOrder ([] :: pieces) t) :
    InOrder pieces t := by
  obtain ⟨before, after, rfl, hrest⟩ := h
  exact inOrder_append hrest _

theorem inOrder_of_append {pieces others : List Text} {t : Text}
    (h : InOrder (pieces ++ others) t) : InOrder pieces t := by
  induction pieces generalizing t with
  | nil => trivial
  | cons piece pieces ih =>
    obtain ⟨before, after, rfl, hrest⟩ := h
    exact ⟨before, after, rfl, ih hrest⟩

/-- Every piece is a stretch of the text. -/
theorem infix_of_inOrder {pieces : List Text} {t piece : Text} (h : InOrder pieces t)
    (hp : piece ∈ pieces) : piece <:+: t := by
  induction pieces generalizing t with
  | nil => cases hp
  | cons first pieces ih =>
    obtain ⟨before, after, rfl, hrest⟩ := h
    rcases List.mem_cons.mp hp with rfl | hp
    · exact ⟨before, after, rfl⟩
    · exact (ih hrest hp).trans ⟨before ++ first, [], by simp⟩

/-- Joined pieces stand in order. -/
theorem inOrder_join (sep : Text) (pieces : List Text) : InOrder pieces (join sep pieces) := by
  induction pieces with
  | nil => trivial
  | cons piece pieces ih =>
    cases pieces with
    | nil => exact ⟨[], [], by simp [join], trivial⟩
    | cons next rest =>
      exact ⟨[], sep ++ join sep (next :: rest), by simp [join], inOrder_append ih _⟩

end Text

namespace Glob

/-- Where the first piece of a glob starts a line and the others follow, the glob covers a start. -/
theorem exists_covers_of_startsInOrder {glob t : Text} (hline : '\n' ∉ t)
    (h : Text.StartsInOrder (Text.splitOn '*' glob) t) :
    ∃ mid after, t = mid ++ after ∧ Covers glob mid := by
  induction glob generalizing t with
  | nil => exact ⟨[], t, rfl, .nil⟩
  | cons c glob ih =>
    obtain ⟨piece, pieces, hp⟩ := Text.exists_splitOn '*' glob
    by_cases hstar : c = '*'
    · subst hstar
      rw [Text.splitOn_sep, hp] at h
      obtain ⟨t, rfl, gap, after, rfl, hrest⟩ := h
      simp only [List.append_assoc, List.mem_append, not_or] at hline
      have hfirst : Text.StartsInOrder (Text.splitOn '*' glob) (piece ++ after) :=
        hp ▸ ⟨after, rfl, hrest⟩
      obtain ⟨mid, rest, hsplit, hcov⟩ := ih (by simpa using hline.2) hfirst
      exact ⟨gap ++ mid, rest, by simp [hsplit], .star hline.1 hcov⟩
    · rw [Text.splitOn_cons hstar hp] at h
      obtain ⟨after, rfl, hrest⟩ := h
      simp only [List.cons_append, List.mem_cons, not_or] at hline
      obtain ⟨mid, rest, hsplit, hcov⟩ := ih hline.2 (hp ▸ ⟨after, rfl, hrest⟩)
      exact ⟨c :: mid, rest, by simp [hsplit], .char hstar hcov⟩

/-- **Where the pieces of a glob stand in order on one line, it covers a stretch.** -/
theorem exists_covers_of_inOrder {glob t : Text} (hline : '\n' ∉ t)
    (h : Text.InOrder (Text.splitOn '*' glob) t) : ∃ mid, mid <:+: t ∧ Covers glob mid := by
  obtain ⟨piece, pieces, hp⟩ := Text.exists_splitOn '*' glob
  rw [hp] at h
  obtain ⟨before, after, rfl, hrest⟩ := h
  simp only [List.append_assoc, List.mem_append, not_or] at hline
  have hfirst : Text.StartsInOrder (Text.splitOn '*' glob) (piece ++ after) :=
    hp ▸ ⟨after, rfl, hrest⟩
  obtain ⟨mid, rest, hsplit, hcov⟩ :=
    exists_covers_of_startsInOrder (by simpa using hline.2) hfirst
  refine ⟨mid, ⟨before, rest, ?_⟩, hcov⟩
  rw [List.append_assoc, ← hsplit, List.append_assoc]

end Glob

end RequestFilter
