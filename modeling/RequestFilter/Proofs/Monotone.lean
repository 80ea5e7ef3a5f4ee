import Mathlib.Data.List.Forall2
import RequestFilter.Proofs.GlobMatching

/-!
# More starts, more ends

An expression that may start at more positions ends at more positions, whatever it looks at around
them. So an expression with something in front of it and behind it matches no text that it does not
match alone.

* `Marks.Le`: one set of positions lies within another; `advance_le`, `keep_le`, `join_le`,
  `iterate_le`, `spread_le`: the steps of the matcher keep it;
* `Regex.ends_le`: **so does every expression**;
* `matchesIn_of_between`: **a sequence matches wherever it matches between two characters**.
-/

namespace RequestFilter

namespace Marks

/-! ## 1. Sets of positions -/

/-- Every position of the first set belongs to the second one, of the same text. -/
def Le (marks others : Marks) : Prop := List.Forall₂ (fun a b => a = true → b = true) marks others

theorem le_all {text : Text} {marks : Marks} (h : marks.length = text.length + 1) :
    Le marks (all text) := by
  refine List.forall₂_iff_get.mpr ⟨by rw [h, length_all], fun i _ _ _ => ?_⟩
  simp [all]

theorem Le.isNonempty {marks others : Marks} (h : Le marks others)
    (hm : marks.isNonempty = true) : others.isNonempty = true := by
  induction h with
  | nil => exact hm
  | cons hab _ ih =>
    rw [Marks.isNonempty, List.any_cons, Bool.or_eq_true] at hm ⊢
    exact hm.imp hab ih

theorem advance_le (set : CharSet) (text : Text) {marks others : Marks} (h : Le marks others) :
    Le (advance set text marks) (advance set text others) := by
  refine .cons id ?_
  induction h generalizing text with
  | nil =>
    rw [List.zipWith_nil_right]
    exact .nil
  | cons hab _ ih =>
    cases text with
    | nil => exact .nil
    | cons c text =>
      refine .cons (fun hx => ?_) (ih text)
      rw [Bool.and_eq_true] at hx ⊢
      exact ⟨hab hx.1, hx.2⟩

theorem keep_le (condition : Look) (before : Option Char) (text : Text) {marks others : Marks}
    (h : Le marks others) : Le (keep condition before text marks)
      (keep condition before text others) := by
  induction h generalizing before text with
  | nil => cases text <;> exact .nil
  | cons hab _ ih =>
    cases text with
    | nil =>
      refine .cons (fun hx => ?_) .nil
      rw [Bool.and_eq_true] at hx ⊢
      exact ⟨hab hx.1, hx.2⟩
    | cons c text =>
      refine .cons (fun hx => ?_) (ih (some c) text)
      rw [Bool.and_eq_true] at hx ⊢
      exact ⟨hab hx.1, hx.2⟩

theorem join_le {marks marks' others others' : Marks} (h : Le marks others)
    (h' : Le marks' others') : Le (join marks marks') (join others others') := by
  induction h generalizing marks' others' with
  | nil => exact .nil
  | cons hab _ ih =>
    cases h' with
    | nil => exact .nil
    | cons hab' htail =>
      refine .cons (fun hx => ?_) (ih htail)
      rw [Bool.or_eq_true] at hx ⊢
      exact hx.imp hab hab'

theorem iterate_of_fixed {step : Marks → Marks} {marks : Marks} (h : step marks = marks) (n : Nat) :
    iterate step n marks = marks := by
  cases n with
  | zero => rfl
  | succ n => simp only [iterate, h, if_true]

/-- Here, too, stopping early is as good as going on. -/
theorem iterate_succ (step : Marks → Marks) (n : Nat) (marks : Marks) :
    iterate step (n + 1) marks = iterate step n (step marks) := by
  rw [iterate]
  split
  · rename_i h
    rw [h, iterate_of_fixed h]
  · rfl

section Steps

variable {step : Marks → Marks} (hstep : ∀ {m m' : Marks}, Le m m' → Le (step m) (step m'))
include hstep

theorem iterate_le (n : Nat) {marks others : Marks} (h : Le marks others) :
    Le (iterate step n marks) (iterate step n others) := by
  induction n generalizing marks others with
  | zero => exact h
  | succ n ih =>
    rw [iterate_succ, iterate_succ]
    exact ih (hstep h)

theorem spread_le (n : Nat) {marks others : Marks} (h : Le marks others) :
    Le (spread step n marks) (spread step n others) := by
  induction n generalizing marks others with
  | zero => exact h
  | succ n ih =>
    rw [spread_succ, spread_succ]
    exact ih (join_le h (hstep h))

end Steps

/-- What is advanced was there. -/
theorem isNonempty_of_advance {set : CharSet} {text : Text} {marks : Marks}
    (h : (advance set text marks).isNonempty = true) : marks.isNonempty = true := by
  obtain ⟨mark, hmem, hmark⟩ := List.any_eq_true.mp h
  rcases List.mem_cons.mp hmem with rfl | hmem
  · cases hmark
  · obtain ⟨i, hi, rfl⟩ := List.mem_iff_getElem.mp hmem
    rw [List.getElem_zipWith, id, Bool.and_eq_true] at hmark
    exact List.any_eq_true.mpr ⟨_, List.getElem_mem _, hmark.1⟩

end Marks

namespace Regex

/-! ## 2. Expressions -/

/-- **An expression carries a larger set of starts to a larger set of ends.** -/
theorem ends_le (text : Text) (r : Regex) {marks others : Marks} (h : Marks.Le marks others) :
    Marks.Le (r.ends text marks) (r.ends text others) := by
  induction r generalizing marks others with
  | empty => exact h
  | chars set => exact Marks.advance_le set text h
  | look condition => exact Marks.keep_le condition none text h
  | seq r s ihr ihs => exact ihs (ihr h)
  | alt r s ihr ihs => exact Marks.join_le (ihr h) (ihs h)
  | rep r least most ih =>
    have hrequired := Marks.iterate_le ih least h
    cases most with
    | some most => exact Marks.spread_le ih (most - least) hrequired
    | none => exact Marks.spread_le ih text.length hrequired

/-- **A sequence matches wherever it matches between two characters.** -/
theorem matchesIn_of_between {front behind : CharSet} {rs : List Regex} {text : Text}
    (h : (concat (.chars front :: rs ++ [.chars behind])).matchesIn text = true) :
    (concat rs).matchesIn text = true := by
  rw [matchesIn, ends_concat, List.cons_append, List.foldl_cons, List.foldl_append,
    ← ends_concat text rs] at h
  have hinside : ((concat rs).ends text (Marks.advance front text (Marks.all text))).isNonempty =
      true := Marks.isNonempty_of_advance h
  have hstarts : Marks.Le (Marks.advance front text (Marks.all text)) (Marks.all text) :=
    Marks.le_all (Marks.length_advance (Marks.length_all text))
  exact (ends_le text (concat rs) hstarts).isNonempty hinside

end Regex

end RequestFilter
