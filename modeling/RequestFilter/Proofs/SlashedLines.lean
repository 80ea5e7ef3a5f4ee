import RequestFilter.Rule

/-!
# Lines between slashes

A line is a regular expression if it writes a body between slashes, perhaps with options behind it,
and the body looks like one.

* `Text.CutsAt`: a way to cut texts where a separator stands; `cutsAt_splitOnce`,
  `cutsAt_splitLast`: the first place and the last one; `splitLast_append_iff`: **where a separator
  comes last**;
* `Rule.Delimits`: a line writes a body between slashes, alone or in front of a mark and options;
  `Rule.HasSign`: the body looks like a regular expression;
* `Rule.regexLiteral?_eq_some_iff`: **which body and options a line has**.
-/

namespace RequestFilter

namespace Text

/-! ## 1. Occurrences -/

theorem eq_append_of_dropStart? {start t after : Text} (h : dropStart? start t = some after) :
    t = start ++ after := by
  induction start generalizing t with
  | nil => exact Option.some.inj h
  | cons s start ih =>
    cases t with
    | nil => cases h
    | cons c rest =>
      rw [dropStart?] at h
      split at h
      · rename_i hc
        rw [hc, ih h, List.cons_append]
      · cases h

theorem dropStart?_append (start after : Text) :
    dropStart? start (start ++ after) = some after := by
  induction start with
  | nil => rfl
  | cons c start ih => rw [List.cons_append, dropStart?, if_pos rfl, ih]

theorem dropStart?_eq_none {start t : Text} (h : dropStart? start t = none) : ¬ start <+: t := by
  rintro ⟨after, rfl⟩
  rw [dropStart?_append] at h
  cases h

/-- A way to cut texts where a separator stands: at the front, or behind the first character where
    the rest is cut. It finds no place only where there is none. -/
structure CutsAt (sep : Text) (cut : Text → Option (Text × Text)) : Prop where
  nil : cut [] = if sep.isEmpty then some ([], []) else none
  cons : ∀ c rest,
    (∃ after, dropStart? sep (c :: rest) = some after ∧ cut (c :: rest) = some ([], after)) ∨
    (∃ before after, cut rest = some (before, after) ∧
      cut (c :: rest) = some (c :: before, after)) ∨
    (dropStart? sep (c :: rest) = none ∧ cut rest = none ∧ cut (c :: rest) = none)

section CutsAt

variable {sep t before after : Text} {cut : Text → Option (Text × Text)}

/-- The parts and the separator between them make up the text. -/
theorem CutsAt.eq_append (hcut : CutsAt sep cut) (h : cut t = some (before, after)) :
    t = before ++ sep ++ after := by
  induction t generalizing before after with
  | nil =>
    rw [hcut.nil, Option.ite_none_right_eq_some] at h
    obtain ⟨rfl, rfl⟩ := Prod.mk.inj (Option.some.inj h.2)
    rw [List.isEmpty_iff.mp h.1, List.append_nil, List.append_nil]
  | cons c rest ih =>
    rcases hcut.cons c rest with ⟨after', hstart, heq⟩ | ⟨before', after', hrest, heq⟩ | ⟨-, -, heq⟩
    · obtain ⟨rfl, rfl⟩ := Prod.mk.inj (Option.some.inj (heq.symm.trans h))
      rw [eq_append_of_dropStart? hstart, List.nil_append]
    · obtain ⟨rfl, rfl⟩ := Prod.mk.inj (Option.some.inj (heq.symm.trans h))
      rw [ih hrest, List.cons_append, List.cons_append]
    · cases heq.symm.trans h

theorem CutsAt.eq_none_iff (hcut : CutsAt sep cut) : cut t = none ↔ ¬ sep <:+: t := by
  induction t with
  | nil => rw [hcut.nil, ite_eq_right_iff, List.infix_nil, List.isEmpty_iff]; simp
  | cons c rest ih =>
    rw [List.infix_cons_iff, not_or]
    rcases hcut.cons c rest with ⟨after, hstart, heq⟩ | ⟨before, after, hrest, heq⟩ |
      ⟨hstart, hrest, heq⟩
    · have hpre : sep <+: c :: rest := ⟨after, (eq_append_of_dropStart? hstart).symm⟩
      simp [heq, hpre]
    · simp [heq, ← ih, hrest]
    · simp [heq, dropStart?_eq_none hstart, ih.mp hrest]

end CutsAt

theorem cutsAt_splitOnce (sep : Text) : CutsAt sep (splitOnce sep) where
  nil := rfl
  cons c rest := by
    rw [splitOnce]
    cases hstart : dropStart? sep (c :: rest) with
    | some after => exact Or.inl ⟨after, rfl, rfl⟩
    | none => cases hrest : splitOnce sep rest <;> simp

theorem cutsAt_splitLast (sep : Text) : CutsAt sep (splitLast sep) where
  nil := rfl
  cons c rest := by
    rw [splitLast]
    cases hrest : splitLast sep rest with
    | some cut => exact Or.inr (Or.inl ⟨cut.1, cut.2, rfl, rfl⟩)
    | none => cases hstart : dropStart? sep (c :: rest) <;> simp

theorem eq_append_of_splitLast {sep t before after : Text}
    (h : splitLast sep t = some (before, after)) : t = before ++ sep ++ after :=
  (cutsAt_splitLast sep).eq_append h

theorem splitLast_eq_none_iff {sep t : Text} : splitLast sep t = none ↔ ¬ sep <:+: t :=
  (cutsAt_splitLast sep).eq_none_iff

/-- **A separator comes last at its own place** if it is not made up further on, be it with its own
    end. -/
theorem splitLast_append_iff {sep : Text} (hsep : sep ≠ []) {before after : Text} :
    splitLast sep (before ++ sep ++ after) = some (before, after) ↔
      ¬ sep <:+: sep.tail ++ after := by
  induction before with
  | nil =>
    obtain ⟨c, rest, rfl⟩ := List.exists_cons_of_ne_nil hsep
    rw [List.nil_append, List.cons_append, splitLast, List.tail_cons, ← splitLast_eq_none_iff]
    have hstart : dropStart? (c :: rest) (c :: (rest ++ after)) = some after :=
      dropStart?_append (c :: rest) after
    cases hrest : splitLast (c :: rest) (rest ++ after) with
    | some cut => simp
    | none => simp [hstart]
  | cons c before ih =>
    rw [← ih, List.cons_append, List.cons_append, splitLast]
    cases hrest : splitLast sep (before ++ sep ++ after) with
    | some cut => simp [Prod.ext_iff]
    | none =>
      have hin : sep <:+: before ++ sep ++ after := List.infix_append before sep after
      exact absurd hin (splitLast_eq_none_iff.mp hrest)

end Text

namespace Rule

/-! ## 2. Lines as they are written -/

/-- The line writes a body between slashes: alone, or with options behind the last `/$`, where the
    line does not end with a slash itself. -/
def Delimits (line body : Text) : Option Text → Prop
  | none => line = '/' :: body ++ ['/']
  | some options => line.getLast? ≠ some '/' ∧ line = '/' :: body ++ ['/', '$'] ++ options ∧
      ¬ ['/', '$'] <:+: options

/-- One of the signs that tell a regular expression from a path stands in the body. -/
def HasSign (body : Text) : Prop := ∃ c ∈ body, c ∈ "\\()[]\x7b\x7d$^+?|".toList

theorem any_isRegexSign {body : Text} : body.any isRegexSign = true ↔ HasSign body := by
  simp only [List.any_eq_true, isRegexSign, List.contains_iff_mem, HasSign]

theorem HasSign.ne_nil {body : Text} (h : HasSign body) : body ≠ [] := by
  obtain ⟨c, hc, -⟩ := h
  exact List.ne_nil_of_mem hc

/-- The line in one form for both ways to write it. -/
theorem Delimits.eq_append {line body : Text} {options : Option Text}
    (h : Delimits line body options) :
    line = '/' :: body ++ '/' :: (options.map ('$' :: ·)).getD [] := by
  cases options with
  | none => exact h
  | some o =>
    obtain ⟨-, rfl, -⟩ := h
    simp

theorem Delimits.head? {line body : Text} {options : Option Text} (h : Delimits line body options) :
    line.head? = some '/' := by
  rw [h.eq_append]
  rfl

/-- The mark in front of the options does not overlap itself, so it comes last where there is none
    behind it. -/
theorem splitLast_mark_iff {t before after : Text} :
    Text.splitLast ['/', '$'] t = some (before, after) ↔
      t = before ++ ['/', '$'] ++ after ∧ ¬ ['/', '$'] <:+: after := by
  have hbehind : ['/', '$'] <:+: ['$'] ++ after ↔ ['/', '$'] <:+: after := by
    rw [List.singleton_append, List.infix_cons_iff, List.cons_prefix_cons]
    simp
  constructor
  · intro h
    obtain rfl := Text.eq_append_of_splitLast h
    exact ⟨rfl, mt hbehind.mpr ((Text.splitLast_append_iff (by simp)).mp h)⟩
  · rintro ⟨rfl, h⟩
    exact (Text.splitLast_append_iff (by simp)).mpr (mt hbehind.mp h)

theorem regexLiteral?_of_head? {line : Text} (h : line.head? ≠ some '/') :
    regexLiteral? line = none := by
  unfold regexLiteral?
  split
  · exact absurd rfl h
  · rfl

theorem regexLiteral?_between (body : Text) : regexLiteral? ('/' :: body ++ ['/']) =
    if body.any isRegexSign then some (body, none) else none := by
  simp [regexLiteral?, Option.filter]

theorem regexLiteral?_of_getLast? {rest : Text} (h : rest.getLast? ≠ some '/') :
    regexLiteral? ('/' :: rest) = ((Text.splitLast ['/', '$'] rest).map fun cut =>
      (cut.1, some cut.2)).filter fun parts => parts.1.any isRegexSign := by
  simp [regexLiteral?, h]

/-- A line between slashes has no options. -/
theorem delimits_between_iff {mid body : Text} {options : Option Text} :
    Delimits ('/' :: mid ++ ['/']) body options ↔ body = mid ∧ options = none := by
  constructor
  · intro h
    cases options with
    | none =>
      have hline : '/' :: mid ++ ['/'] = '/' :: body ++ ['/'] := h
      simp only [List.cons_append, List.cons.injEq, true_and, List.append_cancel_right_eq] at hline
      exact ⟨hline.symm, rfl⟩
    | some o => exact absurd List.getLast?_concat h.1
  · rintro ⟨rfl, rfl⟩
    exact rfl

/-- Any other line is cut at the last mark. -/
theorem delimits_cons_iff {rest body : Text} {options : Option Text}
    (hlast : rest.getLast? ≠ some '/') : Delimits ('/' :: rest) body options ↔
      ∃ o, options = some o ∧ Text.splitLast ['/', '$'] rest = some (body, o) := by
  constructor
  · intro h
    cases options with
    | none =>
      have hline : '/' :: rest = '/' :: (body ++ ['/']) := h
      obtain rfl := (List.cons.inj hline).2
      exact absurd List.getLast?_concat hlast
    | some o =>
      obtain ⟨-, hline, hmark⟩ := h
      exact ⟨o, rfl, splitLast_mark_iff.mpr ⟨(List.cons.inj hline).2, hmark⟩⟩
  · rintro ⟨o, rfl, hcut⟩
    obtain ⟨rfl, hmark⟩ := splitLast_mark_iff.mp hcut
    refine ⟨?_, rfl, hmark⟩
    rw [List.getLast?_cons_of_ne_nil (by simp)]
    exact hlast

/-- **Which body and options a line has.** -/
theorem regexLiteral?_eq_some_iff {line body : Text} {options : Option Text} :
    regexLiteral? line = some (body, options) ↔ Delimits line body options ∧ HasSign body := by
  rw [← any_isRegexSign]
  by_cases hhead : line.head? = some '/'
  · obtain ⟨rest, rfl⟩ := List.head?_eq_some_iff.mp hhead
    by_cases hlast : rest.getLast? = some '/'
    · obtain ⟨mid, rfl⟩ := List.getLast?_eq_some_iff.mp hlast
      rw [← List.cons_append, regexLiteral?_between, delimits_between_iff,
        Option.ite_none_right_eq_some, Option.some.injEq, Prod.mk.injEq]
      constructor
      · rintro ⟨hsign, rfl, rfl⟩
        exact ⟨⟨rfl, rfl⟩, hsign⟩
      · rintro ⟨⟨rfl, rfl⟩, hsign⟩
        exact ⟨hsign, rfl, rfl⟩
    · rw [regexLiteral?_of_getLast? hlast, delimits_cons_iff hlast, Option.filter_eq_some_iff,
        Option.map_eq_some_iff]
      refine and_congr_left fun _ => ?_
      constructor
      · rintro ⟨⟨before, after⟩, hcut, heq⟩
        obtain ⟨rfl, rfl⟩ := Prod.mk.inj heq
        exact ⟨after, rfl, hcut⟩
      · rintro ⟨o, rfl, hcut⟩
        exact ⟨(body, o), hcut, rfl⟩
  · rw [regexLiteral?_of_head? hhead]
    exact iff_of_false (Option.some_ne_none _).symm fun h => hhead h.1.head?

theorem regexLiteral?_eq_none_iff {line : Text} : regexLiteral? line = none ↔
    ∀ body options, Delimits line body options → ¬ HasSign body := by
  simp only [Option.eq_none_iff_forall_ne_some, Prod.forall, Ne, regexLiteral?_eq_some_iff, not_and]

end Rule

end RequestFilter
