import Mathlib.Logic.Basic
import RequestFilter.ElementHiding

/-!
# Colons between brackets

A selector is refused for a single quote, and for colons. A colon is no harm between brackets, but
the validation looks at one colon only: once some colon stands somewhere behind an opening bracket
and somewhere in front of a closing one, the others are not looked at.

* `Text.InBrackets`: a place of a text lies inside a pair of brackets;
* `Text.ColonsInBrackets`, `Text.HasColonBetween`: all colons of a text do, and what is asked of one
  of them instead; `hasColonBetween_of_colonsInBrackets`: the first asks for more;
* `Text.suffix_fromFirst`: what begins with a character lies behind the first such character;
* `ElementHiding.isValidSelector_iff`: **what the validation comes to**;
* `ElementHiding.accepts_selector`: **which selectors are taken in, and for which of them that is
  because of all their colons**.
-/

namespace RequestFilter

namespace Text

/-! ## 1. Places between brackets -/

/-- The place between two parts of a text lies inside a pair of brackets: one is opened in front of
    it and not closed up to there, and one is closed behind it. -/
def InBrackets (before after : Text) : Prop :=
  (∃ outer inner, before = outer ++ '[' :: inner ∧ ']' ∉ inner) ∧ ']' ∈ after

/-- Every colon of the text lies inside a pair of brackets. -/
def ColonsInBrackets (t : Text) : Prop :=
  ∀ before after, t = before ++ ':' :: after → InBrackets before after

/-- Some colon has an opening bracket in front of it and a closing one behind it, whatever else
    stands in between. -/
def HasColonBetween (t : Text) : Prop :=
  ∃ outer inner after, t = outer ++ '[' :: (inner ++ ':' :: after) ∧ ']' ∈ after

theorem colonsInBrackets_of_notMem {t : Text} (h : ':' ∉ t) : ColonsInBrackets t := by
  rintro before after rfl
  exact absurd (List.mem_append_right before List.mem_cons_self) h

/-- Where all colons lie inside brackets, each of them will do. -/
theorem hasColonBetween_of_colonsInBrackets {t : Text} (h : ColonsInBrackets t) (hcolon : ':' ∈ t) :
    HasColonBetween t := by
  obtain ⟨before, after, rfl⟩ := List.append_of_mem hcolon
  obtain ⟨⟨outer, inner, rfl, -⟩, hclosed⟩ := h before after rfl
  exact ⟨outer, inner, after, by simp, hclosed⟩

theorem HasColonBetween.colon_mem {t : Text} (h : HasColonBetween t) : ':' ∈ t := by
  obtain ⟨outer, inner, after, rfl, -⟩ := h
  simp

/-! ## 2. First occurrences -/

theorem fromFirst_cons (c d : Char) (t : Text) :
    ElementHiding.fromFirst c (d :: t) = if d = c then d :: t else ElementHiding.fromFirst c t := by
  by_cases h : d = c <;> simp [ElementHiding.fromFirst, h]

theorem fromFirst_suffix (c : Char) (t : Text) : ElementHiding.fromFirst c t <:+ t :=
  List.dropWhile_suffix _

/-- What is left begins with the character. -/
theorem exists_fromFirst {c d : Char} {t : Text} (h : d ∈ ElementHiding.fromFirst c t) :
    ∃ rest, ElementHiding.fromFirst c t = c :: rest := by
  induction t with
  | nil => cases h
  | cons e t ih =>
    rw [fromFirst_cons] at h ⊢
    by_cases he : e = c
    · exact ⟨t, by rw [if_pos he, he]⟩
    · rw [if_neg he] at h ⊢
      exact ih h

/-- What begins with the character lies behind the first occurrence. -/
theorem suffix_fromFirst {c : Char} {rest t : Text} (h : c :: rest <:+ t) :
    c :: rest <:+ ElementHiding.fromFirst c t := by
  induction t with
  | nil => exact absurd (List.suffix_nil.mp h) (List.cons_ne_nil c rest)
  | cons d t ih =>
    rw [fromFirst_cons]
    split
    · exact h
    · rename_i hd
      rcases List.suffix_cons_iff.mp h with heq | hin
      · exact absurd (List.cons.inj heq).1.symm hd
      · exact ih hin

end Text

namespace ElementHiding

/-! ## 3. Validation -/

/-- The first colon behind the first opening bracket is as good as any other. -/
theorem hasBracketedColon_iff {selector : Text} :
    hasBracketedColon selector = true ↔ selector.HasColonBetween := by
  rw [hasBracketedColon, List.contains_iff_mem]
  constructor
  · intro h
    obtain ⟨after, hcolon⟩ := Text.exists_fromFirst h
    have hin := Text.fromFirst_suffix ':' (fromFirst '[' selector)
    rw [hcolon] at h hin
    obtain ⟨rest, hopen⟩ := Text.exists_fromFirst (hin.subset List.mem_cons_self)
    rw [hopen] at hin
    have hrest : ':' :: after <:+ rest :=
      (List.suffix_cons_iff.mp hin).resolve_left fun heq => by cases heq
    obtain ⟨inner, rfl⟩ := hrest
    obtain ⟨outer, houter⟩ := Text.fromFirst_suffix '[' selector
    rw [hopen] at houter
    exact ⟨outer, inner, after, houter.symm, (List.mem_cons.mp h).resolve_left (by decide)⟩
  · rintro ⟨outer, inner, after, rfl, hclosed⟩
    have hopen := Text.suffix_fromFirst (List.suffix_append outer ('[' :: (inner ++ ':' :: after)))
    have hcolon : ':' :: after <:+ '[' :: (inner ++ ':' :: after) :=
      List.suffix_append ('[' :: inner) _
    exact (Text.suffix_fromFirst (hcolon.trans hopen)).subset (List.mem_cons_of_mem _ hclosed)

/-- **What the validation comes to.** -/
theorem isValidSelector_iff {selector : Text} : isValidSelector selector = true ↔
    '\'' ∉ selector ∧ (':' ∈ selector → selector.HasColonBetween) := by
  rw [isValidSelector, Bool.and_eq_true, Bool.or_eq_true, hasBracketedColon_iff]
  simp only [Bool.not_eq_true', List.contains_eq_mem, decide_eq_false_iff_not]
  rw [imp_iff_not_or]

theorem addGeneric?_eq_some {h : ElementHiding} {selector : Text} :
    h.addGeneric? selector = some { h with generic := h.generic ++ [selector] } ↔
      isValidSelector selector = true := by
  rw [addGeneric?, Option.ite_none_right_eq_some]
  exact and_iff_left rfl

theorem addGeneric?_eq_none {h : ElementHiding} {selector : Text} :
    h.addGeneric? selector = none ↔ isValidSelector selector = false := by
  rw [addGeneric?, ite_eq_right_iff, Bool.eq_false_iff]
  exact imp_congr_right fun _ => iff_of_false (Option.some_ne_none _) id

/-- **Which selectors are taken in.** A selector is added behind the others if it has no single
    quote and, where it has a colon, some colon of it has an opening bracket somewhere in front and
    a closing one somewhere behind; otherwise it is refused. So a selector without quotes whose
    colons all lie inside brackets is taken in. That these are all is true of a selector exactly if
    it has a quote, or all its colons lie inside brackets, or none is even between two brackets: it
    takes one colon that is to have the others pass. -/
theorem accepts_selector (h : ElementHiding) (selector : Text) :
    let taken := h.addGeneric? selector = some { h with generic := h.generic ++ [selector] }
    (taken ↔ '\'' ∉ selector ∧ (':' ∈ selector → selector.HasColonBetween)) ∧
    (h.addGeneric? selector = none ↔ ¬ taken) ∧
    ((taken ↔ '\'' ∉ selector ∧ selector.ColonsInBrackets) ↔
      '\'' ∈ selector ∨ selector.ColonsInBrackets ∨ ¬ selector.HasColonBetween) := by
  intro taken
  have htaken : taken ↔ '\'' ∉ selector ∧ (':' ∈ selector → selector.HasColonBetween) :=
    addGeneric?_eq_some.trans isValidSelector_iff
  refine ⟨htaken, ?_, ?_⟩
  · rw [addGeneric?_eq_none, Bool.eq_false_iff]
    exact not_congr addGeneric?_eq_some.symm
  · have hall := @Text.hasColonBetween_of_colonsInBrackets selector
    have hnone := @Text.colonsInBrackets_of_notMem selector
    have hsome := @Text.HasColonBetween.colon_mem selector
    rw [htaken]
    grind

/-- A selector with a colon inside brackets and another one behind them. -/
def hoveredLink : Text := "a[href^=\"http:\"]:hover".toList

/-- The colon inside the brackets has the one behind them pass. -/
theorem unbracketed_colon_accepted :
    addGeneric? {} hoveredLink = some { generic := [hoveredLink] } ∧
      '\'' ∉ hoveredLink ∧ ¬ hoveredLink.ColonsInBrackets := by
  refine ⟨addGeneric?_eq_some.mpr (by decide), by decide, fun hall => ?_⟩
  have hbehind := (hall "a[href^=\"http:\"]".toList "hover".toList rfl).2
  exact absurd hbehind (by decide)

end ElementHiding

end RequestFilter
