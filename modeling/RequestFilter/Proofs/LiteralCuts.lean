import RequestFilter.Proofs.ByteCuts
import RequestFilter.Proofs.SlashedLines

/-!
# Lines by cuts

A line `/body/` or `/body/$options` is taken apart character by character. This file takes it apart
with a search for the last `/$` and with cuts at byte positions, any of which could go wrong.

* `Text.lastPosition?`: the last place of the bytes of a separator; `lastPosition?_eq`: **the search
  finds where the separator comes last**;
* `Text.cut`: a cut at byte positions, or the `BadCut` that it would be;
* `Rule.cutLiteral`, `Rule.cutRegexText`: lines and transliterated texts by cuts; `cutLiteral_eq`,
  `cutRegexText_eq`: **no cut is bad**, and the outcome is the same;
* `Rule.literal_cuts`: **lines are taken apart without a bad cut, and as they were written.**
-/

namespace RequestFilter

namespace Text

/-! ## 1. Last occurrences -/

/-- The last byte position at which the bytes of a part stand. -/
def lastPosition? (part t : Text) : Option Nat :=
  (List.range (t.byteSize + 1)).reverse.find? (standsAt part t)

theorem find?_reverse_range {holds : Nat → Bool} {n p : Nat} (hp : p < n) (h : holds p = true)
    (hlast : ∀ q, p < q → holds q = false) : (List.range n).reverse.find? holds = some p := by
  induction n with
  | zero => omega
  | succ n ih =>
    rw [List.range_succ, List.reverse_concat]
    rcases Nat.lt_or_eq_of_le (Nat.le_of_lt_succ hp) with hlt | rfl
    · rw [List.find?_cons_of_neg (by simp [hlast n hlt]), ih hlt]
    · rw [List.find?_cons_of_pos h]

/-- **The search for the bytes of a separator finds where it comes last.** -/
theorem lastPosition?_eq {sep : Text} (hsep : sep ≠ []) (t : Text) :
    lastPosition? sep t = (splitLast sep t).map fun cut => byteSize cut.1 := by
  cases hcut : splitLast sep t with
  | none =>
    rw [lastPosition?, Option.map_none, List.find?_eq_none]
    intro p _ hstands
    obtain ⟨a, b, rfl, -⟩ := (standsAt_iff hsep).mp hstands
    exact splitLast_eq_none_iff.mp hcut (List.infix_append a sep b)
  | some cut =>
    obtain ⟨before, after⟩ := cut
    obtain rfl := eq_append_of_splitLast hcut
    have hlast := (splitLast_append_iff hsep).mp hcut
    have hstands := (standsAt_iff hsep).mpr ⟨before, after, rfl, rfl⟩
    refine find?_reverse_range (p := before.byteSize) ?_ hstands fun q hq => ?_
    · rw [byteSize_append, byteSize_append]
      omega
    · rw [Bool.eq_false_iff]
      intro hfurther
      obtain ⟨a, b, heq, rfl⟩ := (standsAt_iff hsep).mp hfurther
      -- an occurrence further on would lie behind the first character of the last one
      have hpre : before <+: a := prefix_of_byteSize_le ⟨sep ++ after, (List.append_assoc ..).symm⟩
        ⟨sep ++ b, by rw [heq, List.append_assoc]⟩ (Nat.le_of_lt hq)
      obtain ⟨mid, rfl⟩ : ∃ mid : Text, before ++ mid = a := hpre
      cases mid with
      | nil => simp at hq
      | cons c mid =>
        obtain ⟨d, rest, rfl⟩ := List.exists_cons_of_ne_nil hsep
        simp only [List.append_assoc, List.append_cancel_left_eq, List.cons_append,
          List.cons.injEq] at heq
        exact hlast ⟨mid, b, by simpa using heq.2.symm⟩

/-! ## 2. Cuts that can be bad -/

/-- A cut outside a text or inside one of its characters. -/
structure BadCut where
  text : Text
  start : Nat
  stop : Nat
  deriving Repr, DecidableEq

/-- The text between two byte positions, which have to be fit for it. -/
def cut (t : Text) (i j : Nat) : Except BadCut Text :=
  match t.slice? i j with
  | some w => .ok w
  | none => .error ⟨t, i, j⟩

/-- A cut is good where the positions are the sizes of parts of the text. -/
theorem cut_eq {t a w b : Text} {i j : Nat} (ht : t = a ++ w ++ b) (hi : a.byteSize = i)
    (hj : i + w.byteSize = j) : t.cut i j = .ok w := by
  rw [cut, slice?_eq_some.mpr ⟨a, b, ht, hi, hj⟩]

end Text

namespace Rule

open Text (BadCut)

/-! ## 3. Lines by cuts -/

/-- The body of a literal, which stands between its first byte and its last, if it looks like a
    regular expression. -/
def cutBody (literal : Text) (options : Option Text) :
    Except BadCut (Option (Text × Option Text)) :=
  if literal.byteSize < 3 then .ok none
  else do
    let body ← literal.cut 1 (literal.byteSize - 1)
    return if body.any isRegexSign then some (body, options) else none

/-- The body and the options of a line with a mark at a byte position. -/
def cutMark (line : Text) (p : Nat) : Except BadCut (Option (Text × Option Text)) := do
  let literal ← line.cut 0 (p + 1)
  let options ← line.cut (p + 2) line.byteSize
  cutBody literal (some options)

/-- The body and the options of a line, by cuts at byte positions. -/
def cutLiteral (line : Text) : Except BadCut (Option (Text × Option Text)) :=
  if line.head? ≠ some '/' ∨ line.byteSize < 3 then .ok none
  else if line.getLast? = some '/' then cutBody line none
  else match Text.lastPosition? ['/', '$'] line with
    | none => .ok none
    | some p => cutMark line p

/-- A transliterated text is a regular expression of its own, by a cut at byte positions. -/
def cutRegexText (t : Text) : Except BadCut Bool :=
  if t.byteSize < 3 ∨ t.head? ≠ some '/' ∨ t.getLast? ≠ some '/' then .ok false
  else do
    let inner ← t.cut 1 (t.byteSize - 1)
    return inner.any (['^', '$', '*'].contains ·)

/-! ## 4. No cut is bad -/

theorem byteSize_between (body : Text) :
    Text.byteSize ('/' :: body ++ ['/']) = body.byteSize + 2 := by
  have hslash : Char.utf8Size '/' = 1 := rfl
  rw [Text.byteSize_append, Text.byteSize_cons, Text.byteSize_cons, Text.byteSize_nil, hslash]
  omega

/-- A body that is not empty takes up a line of three bytes at least. -/
theorem Delimits.three_le {line body : Text} {options : Option Text}
    (h : Delimits line body options) (hbody : body ≠ []) : 3 ≤ line.byteSize := by
  have hpos : body.byteSize ≠ 0 := mt Text.byteSize_eq_zero.mp hbody
  have hslash : Char.utf8Size '/' = 1 := rfl
  rw [h.eq_append, Text.byteSize_append, Text.byteSize_cons, Text.byteSize_cons, hslash]
  omega

/-- A text of three bytes or more that begins and ends with a slash has something in between. -/
theorem exists_of_slashes {t : Text} (hhead : t.head? = some '/') (hlast : t.getLast? = some '/')
    (hsize : 3 ≤ t.byteSize) : ∃ mid, t = '/' :: mid ++ ['/'] := by
  obtain ⟨rest, rfl⟩ := List.head?_eq_some_iff.mp hhead
  have hrest : rest ≠ [] := by
    rintro rfl
    exact absurd hsize (by decide)
  rw [List.getLast?_cons_of_ne_nil hrest] at hlast
  obtain ⟨mid, rfl⟩ := List.getLast?_eq_some_iff.mp hlast
  exact ⟨mid, rfl⟩

theorem cut_between (body : Text) : Text.cut ('/' :: body ++ ['/']) 1
    (Text.byteSize ('/' :: body ++ ['/']) - 1) = .ok body := by
  refine Text.cut_eq (a := ['/']) (b := ['/']) rfl rfl ?_
  rw [byteSize_between]
  omega

theorem cutBody_between (body : Text) (options : Option Text) :
    cutBody ('/' :: body ++ ['/']) options =
      .ok (if body.any isRegexSign then some (body, options) else none) := by
  rw [cutBody, cut_between]
  split
  · rename_i hshort
    rw [byteSize_between] at hshort
    have hnil : body = [] := Text.byteSize_eq_zero.mp (by omega)
    simp [hnil]
  · rfl

/-- At a mark the line is cut behind its slash and behind its dollar sign. -/
theorem cutMark_eq (before after : Text) : cutMark (before ++ ['/', '$'] ++ after) before.byteSize =
    cutBody (before ++ ['/']) (some after) := by
  have hmark : Text.byteSize ['/', '$'] = 2 := rfl
  have hslash : Text.byteSize ['/'] = 1 := rfl
  have hliteral : (before ++ ['/', '$'] ++ after).cut 0 (before.byteSize + 1) =
      .ok (before ++ ['/']) := by
    refine Text.cut_eq (a := []) (b := '$' :: after) (by simp) rfl ?_
    rw [Text.byteSize_append, hslash]
    omega
  have hoptions : (before ++ ['/', '$'] ++ after).cut (before.byteSize + 2)
      (Text.byteSize (before ++ ['/', '$'] ++ after)) = .ok after := by
    refine Text.cut_eq (a := before ++ ['/', '$']) (b := []) (by simp) ?_ ?_
    · rw [Text.byteSize_append, hmark]
    · rw [Text.byteSize_append, Text.byteSize_append, hmark]
  rw [cutMark, hliteral, hoptions]
  rfl

/-- The guards of the cuts keep no line from its body. -/
theorem regexLiteral?_eq_none_of_guard {line : Text}
    (h : line.head? ≠ some '/' ∨ line.byteSize < 3) : regexLiteral? line = none := by
  rw [regexLiteral?_eq_none_iff]
  intro body options hline hsign
  have hsize := hline.three_le hsign.ne_nil
  rcases h with hhead | hshort
  · exact hhead hline.head?
  · omega

/-- **Where the last mark is searched for, a line is cut well.** The mark may begin with the first
    slash of the line, which leaves no body. -/
theorem cutMark_lastPosition? {rest : Text} (hlast : rest.getLast? ≠ some '/') :
    (match Text.lastPosition? ['/', '$'] ('/' :: rest) with
      | none => .ok none
      | some p => cutMark ('/' :: rest) p) = Except.ok (regexLiteral? ('/' :: rest)) := by
  rw [Text.lastPosition?_eq (by simp), regexLiteral?_of_getLast? hlast, Text.splitLast]
  cases hcut : Text.splitLast ['/', '$'] rest with
  | some cut =>
    obtain ⟨before, after⟩ := cut
    obtain rfl := Text.eq_append_of_splitLast hcut
    exact (cutMark_eq ('/' :: before) after).trans (cutBody_between before (some after))
  | none =>
    cases hstart : Text.dropStart? ['/', '$'] ('/' :: rest) with
    | none => rfl
    | some after =>
      rw [Text.eq_append_of_dropStart? hstart]
      exact cutMark_eq [] after

/-- **A line is taken apart without a bad cut**, and as it is character by character. -/
theorem cutLiteral_eq (line : Text) : cutLiteral line = .ok (regexLiteral? line) := by
  rw [cutLiteral]
  split
  · rename_i hguard
    rw [regexLiteral?_eq_none_of_guard hguard]
  rename_i hguard
  simp only [not_or, Decidable.not_not, Nat.not_lt] at hguard
  split
  · rename_i hlast
    obtain ⟨body, rfl⟩ := exists_of_slashes hguard.1 hlast hguard.2
    rw [cutBody_between, regexLiteral?_between]
  · rename_i hlast
    obtain ⟨rest, rfl⟩ := List.head?_eq_some_iff.mp hguard.1
    refine cutMark_lastPosition? fun hrest => hlast ?_
    rw [List.getLast?_cons, hrest]
    rfl

theorem isRegexText_between (mid : Text) :
    isRegexText ('/' :: mid ++ ['/']) = mid.any (['^', '$', '*'].contains ·) := by
  simp [isRegexText]

theorem exists_of_isRegexText {t : Text} (h : isRegexText t = true) :
    ∃ mid, t = '/' :: mid ++ ['/'] ∧ mid ≠ [] := by
  unfold isRegexText at h
  split at h
  · rw [Bool.and_eq_true, decide_eq_true_eq] at h
    obtain ⟨mid, rfl⟩ := List.getLast?_eq_some_iff.mp h.1
    refine ⟨mid, rfl, ?_⟩
    rintro rfl
    exact absurd h.2 (by decide)
  · cases h

/-- **A text is looked into without a bad cut**, and as it is character by character. -/
theorem cutRegexText_eq (t : Text) : cutRegexText t = .ok (isRegexText t) := by
  rw [cutRegexText]
  split
  · rename_i hguard
    have hfalse : isRegexText t = false := by
      rw [Bool.eq_false_iff]
      intro htrue
      obtain ⟨mid, rfl, hmid⟩ := exists_of_isRegexText htrue
      have hsize := byteSize_between mid
      have hpos : Text.byteSize mid ≠ 0 := mt Text.byteSize_eq_zero.mp hmid
      rcases hguard with hshort | hhead | hlast
      · omega
      · exact hhead rfl
      · exact hlast List.getLast?_concat
    rw [hfalse]
  · rename_i hguard
    simp only [not_or, Decidable.not_not, Nat.not_lt] at hguard
    obtain ⟨mid, rfl⟩ := exists_of_slashes hguard.2.1 hguard.2.2 hguard.1
    rw [cut_between, isRegexText_between]
    rfl

/-- **Lines are taken apart as they were written.** No cut is bad, be it of a line (first) or of a
    transliterated text (second), and the outcome is the one without cuts. A line has a body and
    options if and only if it writes them and the body has a sign, so that it is not empty (third),
    and it has none if and only if it writes none with a sign (fourth). -/
theorem literal_cuts (line : Text) :
    cutLiteral line = .ok (regexLiteral? line) ∧
    cutRegexText line = .ok (isRegexText line) ∧
    (∀ body options, regexLiteral? line = some (body, options) ↔
      Delimits line body options ∧ body ≠ [] ∧ HasSign body) ∧
    (regexLiteral? line = none ↔ ¬ ∃ body options, Delimits line body options ∧ HasSign body) := by
  refine ⟨cutLiteral_eq line, cutRegexText_eq line, fun body options => ?_, ?_⟩
  · rw [regexLiteral?_eq_some_iff, and_congr_right_iff]
    exact fun _ => (and_iff_right_of_imp HasSign.ne_nil).symm
  · simp only [regexLiteral?_eq_none_iff, not_exists, not_and]

/-- Of two marks the last one counts, next to characters of two and of three bytes, and one that the
    first slash of the line makes up does not. -/
theorem literal_cuts_marks :
    cutLiteral "/é(/$/$€".toList = .ok (some ("é(/$".toList, some "€".toList)) ∧
      cutLiteral "/$(€/$/".toList = .ok (some ("$(€/$".toList, none)) ∧
      cutLiteral "/$(€".toList = .ok none := by
  have hmarks : regexLiteral? "/é(/$/$€".toList = some ("é(/$".toList, some "€".toList) :=
    ((literal_cuts _).2.2.1 _ _).mpr
      ⟨⟨by decide, rfl, by decide⟩, by decide, '(', by decide, by decide⟩
  have hends : regexLiteral? "/$(€/$/".toList = some ("$(€/$".toList, none) :=
    ((literal_cuts _).2.2.1 _ _).mpr ⟨rfl, by decide, '(', by decide, by decide⟩
  have hfirst : regexLiteral? "/$(€".toList = none := by decide
  rw [(literal_cuts _).1, (literal_cuts _).1, (literal_cuts _).1, hmarks, hends, hfirst]
  exact ⟨rfl, rfl, rfl⟩

end Rule

end RequestFilter
