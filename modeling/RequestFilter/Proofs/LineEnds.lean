import RequestFilter.Proofs.LineByLine

/-!
# Line ends

A list may have been written on any system and in any editor: with or without carriage returns in
front of its newlines, and with blanks behind its lines. Nothing of this is seen by a load, not even
where the limit for the length of a line is met exactly.

* `Text.Reended`: texts with the same lines, up to their ends and to the blanks there;
  `reended_withReturns`: so it is with a carriage return in front of every newline;
* `Reended.map_trimEnd`: **such texts have the same lines without the blanks at their ends**;
* `RuleSet.load_reended`: **and a load takes one for the other**.

NOT here: blanks behind the last newline, which make one more line; and a list that is split over
several files (`Proofs/SplitLists.lean`).
-/

namespace RequestFilter

namespace Text

/-! ## 1. Ends of lines -/

/-- What may end a line. -/
def lineEnds : List Text := [['\n'], ['\r', '\n']]

/-- Blanks that do not end a line. -/
def IsPadding (pad : Text) : Prop := ∀ c ∈ pad, Unicode.isBlank c = true ∧ c ≠ '\n'

instance (pad : Text) : Decidable (IsPadding pad) := List.decidableBAll _ pad

theorem isPadding_nil : IsPadding [] := List.forall_mem_nil _

theorem IsPadding.isBlank {pad : Text} (h : IsPadding pad) : ∀ c ∈ pad, Unicode.isBlank c = true :=
  fun c hc => (h c hc).1

/-- Such blanks lengthen a line, and make no two lines of it. -/
theorem IsPadding.newline_notMem_append {body pad : Text} (h : IsPadding pad)
    (hbody : '\n' ∉ body) : '\n' ∉ body ++ pad := by
  rw [List.mem_append]
  exact fun hin => hin.elim hbody fun hpad => (h _ hpad).2 rfl

/-- Texts with the same lines. In the second one there may be blanks behind any of them, and each
    that ends with a newline may have it with or without a carriage return. -/
inductive Reended : Text → Text → Prop where
  | nil : Reended [] []
  | line {body pad ending ending' rest rest' : Text} (hbody : '\n' ∉ body) (hpad : IsPadding pad)
      (hending : ending ∈ lineEnds) (hending' : ending' ∈ lineEnds) (hrest : Reended rest rest') :
      Reended (body ++ ending ++ rest) (body ++ pad ++ ending' ++ rest')
  | last {body pad : Text} (hne : body ≠ []) (hbody : '\n' ∉ body) (hpad : IsPadding pad) :
      Reended body (body ++ pad)

/-- The text with a carriage return in front of every newline. -/
def withReturns (t : Text) : Text := t.flatMap fun c => if c = '\n' then ['\r', '\n'] else [c]

/-- Only the ends of lines become others. -/
theorem reended_withReturns (t : Text) : Reended t (withReturns t) := by
  -- a line is met character by character, so what was met of it has to be carried along
  suffices hfrom : ∀ body, '\n' ∉ body → Reended (body ++ t) (body ++ withReturns t) from
    hfrom [] List.not_mem_nil
  induction t with
  | nil =>
    intro body hbody
    by_cases hne : body = []
    · rw [hne]
      exact .nil
    · rw [List.append_nil]
      exact .last hne hbody isPadding_nil
  | cons c t ih =>
    intro body hbody
    by_cases hc : c = '\n'
    · have hline := @Reended.line body [] ['\n'] ['\r', '\n'] t (withReturns t) hbody isPadding_nil
        (by decide) (by decide) (ih [] List.not_mem_nil)
      simpa [hc, withReturns] using hline
    · have hmore : '\n' ∉ body ++ [c] := by simp [hbody, Ne.symm hc]
      simpa [hc, withReturns] using ih (body ++ [c]) hmore

/-! ## 2. Lines without their ends -/

/-- Up to its first newline a text is one line. -/
theorem rawLines_append_newline {body : Text} (hbody : '\n' ∉ body) (rest : Text) :
    rawLines (body ++ '\n' :: rest) = (body ++ ['\n']) :: rawLines rest := by
  induction body with
  | nil => rfl
  | cons c body ih =>
    rw [List.mem_cons, not_or] at hbody
    obtain ⟨hc, hmore⟩ := hbody
    rw [List.cons_append, rawLines_cons (Ne.symm hc), ih hmore]
    rfl

theorem rawLines_of_no_newline {body : Text} (hne : body ≠ []) (hbody : '\n' ∉ body) :
    rawLines body = [body] := by
  induction body with
  | nil => exact absurd rfl hne
  | cons c body ih =>
    rw [List.mem_cons, not_or] at hbody
    obtain ⟨hc, hmore⟩ := hbody
    rw [rawLines_cons (Ne.symm hc)]
    by_cases hlast : body = []
    · rw [hlast]
      rfl
    · rw [ih hlast hmore]

/-- A line with whatever end it has. -/
theorem rawLines_line {body ending : Text} (hbody : '\n' ∉ body) (hending : ending ∈ lineEnds)
    (rest : Text) : rawLines (body ++ ending ++ rest) = (body ++ ending) :: rawLines rest := by
  simp only [lineEnds, List.mem_cons, List.not_mem_nil, or_false] at hending
  rcases hending with rfl | rfl
  · simpa using rawLines_append_newline hbody rest
  · have hreturn : '\n' ∉ body ++ ['\r'] := by simp [hbody]
    simpa using rawLines_append_newline hreturn rest

/-- Blanks at the end of a text go. -/
theorem trimEnd_append_blanks {pad : Text} (hpad : ∀ c ∈ pad, Unicode.isBlank c = true) (t : Text) :
    trimEnd (t ++ pad) = trimEnd t := by
  have hnone : pad.reverse.dropWhile Unicode.isBlank = [] :=
    List.dropWhile_eq_nil_iff.mpr fun c hc => hpad c (List.mem_reverse.mp hc)
  rw [trimEnd, trimEnd, List.reverse_append, List.dropWhile_append, hnone]
  rfl

/-- The end of a line is blank, as are the blanks in front of it. -/
theorem trimEnd_append_end {pad ending : Text} (hpad : IsPadding pad) (hending : ending ∈ lineEnds)
    (body : Text) : trimEnd (body ++ pad ++ ending) = trimEnd body := by
  have hblank : ∀ c ∈ ending, Unicode.isBlank c = true := by
    simp only [lineEnds, List.mem_cons, List.not_mem_nil, or_false] at hending
    rcases hending with rfl | rfl <;> simp <;> decide
  rw [trimEnd_append_blanks hblank, trimEnd_append_blanks hpad.isBlank]

/-- **Texts with the same lines have the same lines without the blanks at their ends.** -/
theorem Reended.map_trimEnd {s t : Text} (h : Reended s t) :
    (rawLines t).map trimEnd = (rawLines s).map trimEnd := by
  induction h with
  | nil => rfl
  | @line body pad ending ending' rest rest' hbody hpad hending hending' hrest ih =>
    have hplain : trimEnd (body ++ ending) = trimEnd body := by
      simpa using trimEnd_append_end isPadding_nil hending body
    rw [rawLines_line (hpad.newline_notMem_append hbody) hending', rawLines_line hbody hending,
      List.map_cons, List.map_cons, trimEnd_append_end hpad hending', hplain, ih]
  | @last body pad hne hbody hpad =>
    rw [rawLines_of_no_newline (List.append_ne_nil_of_left_ne_nil hne pad)
        (hpad.newline_notMem_append hbody), rawLines_of_no_newline hne hbody, List.map_singleton,
      List.map_singleton, trimEnd_append_blanks hpad.isBlank]

end Text

namespace RuleSet

/-! ## 3. Loads -/

/-- **A load sees neither line ends nor blanks in front of them.** Whatever rules there are and
    whatever the limit for the length of a line: a list with a carriage return in front of every
    newline comes to the same rules and the same selectors, with the same counters and the same
    reports, as the list without, and so does a list with blanks behind any of its lines, with
    carriage returns or without. -/
theorem load_reended (s : RuleSet) (maxLine : Nat) :
    (∀ text, s.load maxLine (Text.withReturns text) = s.load maxLine text) ∧
      ∀ text other, Text.Reended text other → s.load maxLine other = s.load maxLine text := by
  have hload : ∀ text other, Text.Reended text other →
      s.load maxLine other = s.load maxLine text := by
    intro text other h
    rw [load_eq_rawLines, load_eq_rawLines]
    exact loadLines_congr h.map_trimEnd
  exact ⟨fun text => hload text _ (Text.reended_withReturns text), hload⟩

/-- Two of the lines meet the limit of six bytes exactly, one is longer, and the last one has no
    newline. Behind them come a tab and a space, a carriage return, nothing, and blanks of two and
    three bytes. -/
theorem load_reended_limit :
    let text := "||ads^\n##.adx\r\n||old2^\n*".toList
    let other := "||ads^\t \r\n##.adx\r\r\n||old2^\n*\u0085\u2003".toList
    let loaded := ({} : RuleSet).load 6 text
    Text.Reended text other ∧ ({} : RuleSet).load 6 other = loaded ∧
      ({} : RuleSet).load 6 (Text.withReturns text) = loaded ∧
      loaded.result =
        { lines := 4, rules := 1, hiderAccepted := 1, invalid := 1, tooLong := 1 } := by
  intro text other loaded
  have h : Text.Reended text other :=
    @Text.Reended.line "||ads^".toList "\t ".toList ['\n'] ['\r', '\n'] _ _
      (by decide) (by decide) (by decide) (by decide)
    (@Text.Reended.line "##.adx".toList ['\r'] ['\r', '\n'] ['\r', '\n'] _ _
      (by decide) (by decide) (by decide) (by decide)
    (@Text.Reended.line "||old2^".toList [] ['\n'] ['\n'] _ _
      (by decide) (by decide) (by decide) (by decide)
    (@Text.Reended.last ['*'] ['\u0085', '\u2003'] (by decide) (by decide) (by decide))))
  obtain ⟨hreturns, hreended⟩ := load_reended {} 6
  exact ⟨h, hreended text other h, hreturns text, by decide +kernel⟩

end RuleSet

end RequestFilter
