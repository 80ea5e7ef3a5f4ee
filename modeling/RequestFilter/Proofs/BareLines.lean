import RequestFilter.Proofs.LineByLine
import RequestFilter.Proofs.QuietGlobs
import RequestFilter.Proofs.SavedLists

/-!
# Bare lines

A line may hold nothing but wildcards and marks. The marks vanish, and so do a star at the start and
one at the end. If that was all, nothing is left to look for, and the line may as well be deleted.

* `Glob.IsBare`: a text of wildcards and marks; `Glob.transliterate_of_bare`: **what is left of it
  behind the anchor are its wildcards, without those at the two ends**;
* `LineKind.behindAnchor`: a line without its anchor; `classify_of_bare`: a bare line is a rule;
* `RuleSet.addLine_of_bare`: **with one star left behind the anchor, this rule is empty**;
* `load_of_bare`: **such a line blocks nothing**, wherever it stands in a list.

NOT here: bare lines with more stars left, which do not become empty expressions.
-/

namespace RequestFilter

namespace Glob

/-! ## 1. Bare texts -/

/-- The text consists of wildcards and of marks that vanish. -/
def IsBare (t : Text) : Prop := ∀ c ∈ t, c ∈ ['*', '|', '^', '+']

instance (t : Text) : Decidable (IsBare t) := List.decidableBAll _ t

theorem IsBare.of_suffix {s t : Text} (ht : IsBare t) (h : s <:+ t) : IsBare s :=
  fun c hc => ht c (h.subset hc)

/-- A character of another kind is not in it. -/
theorem IsBare.notMem {t : Text} (h : IsBare t) {c : Char} (hc : c ∉ ['*', '|', '^', '+']) :
    c ∉ t := fun hm => hc (h c hm)

/-- What is true of none of the four is true of no character of it. -/
theorem IsBare.eq_false {t : Text} (h : IsBare t) {p : Char → Bool}
    (hp : ['*', '|', '^', '+'].any p = false) : ∀ c ∈ t, p c = false :=
  fun c hc => Bool.eq_false_iff.mpr (List.any_eq_false.mp hp c (h c hc))

theorem IsBare.quiet {t : Text} (h : IsBare t) : Quiet t := h.eq_false (by decide)

/-- Only the wildcards leave something. -/
theorem flatMap_image_of_bare {t : Text} (h : IsBare t) :
    t.flatMap image = (List.replicate (t.count '*') ['.', '*']).flatten := by
  induction t with
  | nil => rfl
  | cons c t ih =>
    rw [List.flatMap_cons, ih (h.of_suffix (List.suffix_cons c t))]
    rcases List.mem_cons.mp (h c List.mem_cons_self) with rfl | hmark
    · rw [List.count_cons_self, List.replicate_succ, List.flatten_cons]
      rfl
    · simp only [List.mem_cons, List.not_mem_nil, or_false] at hmark
      rcases hmark with rfl | rfl | rfl <;> rw [List.count_cons_of_ne (by decide)] <;> rfl

/-- **What is left of a bare text are its wildcards, without those at the two ends.** -/
theorem transliterate_of_bare {anchor t : Text} (ha : IsAnchor anchor) (h : IsBare t) :
    transliterate anchor t = anchor ++
      (List.replicate ((dropLeadingStar t).count '*' - 1) ['.', '*']).flatten := by
  have hrest : IsBare (dropLeadingStar t) := h.of_suffix (suffix_dropLeadingStar t)
  rw [transliterate, flatMap_image_of_bare hrest]
  cases (dropLeadingStar t).count '*' with
  | zero => rcases ha with rfl | rfl <;> rfl
  | succ n =>
    rw [List.replicate_succ', List.flatten_concat, ← List.append_assoc,
      dropTrailingWildcard_append, Nat.add_sub_cancel]

end Glob

/-! ## 2. Bare rules -/

/-- **A rule with a bare text and one star left is empty.** -/
theorem Rule.compile_of_bare {r : Rule} (ha : Glob.IsAnchor r.anchor) (h : Glob.IsBare r.body)
    (hstars : (Glob.dropLeadingStar r.body).count '*' ≤ 1) : r.compile = .error .emptyPattern := by
  have hslash : r.body.head? ≠ some '/' :=
    fun hhead => h.notMem (by decide) (List.mem_of_mem_head? hhead)
  have hleft : Glob.transliterate r.anchor r.body = r.anchor := by
    rw [Glob.transliterate_of_bare ha h, Nat.sub_eq_zero_of_le hstars, List.replicate_zero,
      List.flatten_nil, List.append_nil]
  rw [Rule.compile_of_quiet h.quiet fun _ hslashes => hslash hslashes.1, Rule.compileGlob, hleft,
    Rule.asksForSubdocuments_tag]
  simp

namespace LineKind

/-- A line without the anchor that it may begin with. -/
def behindAnchor : Text → Text
  | '|' :: '|' :: body => body
  | '|' :: body => body
  | line => line

theorem suffix_behindAnchor (line : Text) : behindAnchor line <:+ line := by
  unfold behindAnchor
  split
  · exact List.suffix_append ['|', '|'] _
  · exact List.suffix_append ['|'] _
  · exact List.suffix_refl _

/-- **A bare line is a rule**, unless it is empty. -/
theorem classify_of_bare {line : Text} (h : Glob.IsBare line) (hne : line ≠ []) :
    ∃ r, classify line = .rule r ∧ Glob.IsAnchor r.anchor ∧ r.body = behindAnchor line := by
  have hblank : ∀ c ∈ line, Unicode.isBlank c = false := h.eq_false (by decide)
  have htrim : Text.trim line = line := Text.trim_of_trimmed
    ⟨fun c hc => hblank c (List.mem_of_mem_head? hc),
      fun c hc => hblank c (List.mem_of_mem_getLast? hc)⟩
  have hhead : ∀ c ∉ ['*', '|', '^', '+'], line.head? ≠ some c :=
    fun c hc hline => h.notMem hc (List.mem_of_mem_head? hline)
  have hoccurs : ∀ (part : Text) (c : Char), c ∈ part → c ∉ ['*', '|', '^', '+'] →
      Text.occursIn part line = false := by
    intro part c hpart hc
    refine Bool.eq_false_iff.mpr fun hin => h.notMem hc ?_
    exact (Text.occursIn_iff.mp hin).subset hpart
  have hat : ['@', '@'].isPrefixOf line = false := by
    refine Bool.eq_false_iff.mpr fun hin => h.notMem (c := '@') (by decide) ?_
    exact (List.isPrefixOf_iff_prefix.mp hin).subset List.mem_cons_self
  have hhash : line.contains '#' = false := by simpa using h.notMem (c := '#') (by decide)
  unfold classify
  simp only [List.isEmpty_iff, hne, hhead '!' (by decide), hat, hhead '[' (by decide),
    hoccurs "domain=".toList 'd' (by decide) (by decide), hhead ' ' (by decide), htrim,
    hoccurs ['#', '@', '#'] '#' (by decide) (by decide),
    hoccurs ['#', '#'] '#' (by decide) (by decide), hhash, beq_iff_eq, Bool.or_eq_true, or_self,
    if_false, Bool.false_eq_true]
  -- the anchor decides which of the three kinds of rule it is
  split
  · exact absurd rfl (hhead '#' (by decide))
  · exact absurd rfl (hhead '#' (by decide))
  · split
    · exact ⟨_, rfl, .inl rfl, rfl⟩
    · rename_i htwo _ _
      exact ⟨_, rfl, .inr rfl, (behindAnchor.eq_2 _ htwo).symm⟩
    · rename_i htwo hone
      exact ⟨_, rfl, .inl rfl, (behindAnchor.eq_3 _ htwo hone).symm⟩

end LineKind

namespace RuleSet

variable {maxLine number : Nat} {s : RuleSet} {line : Text}

/-- **A bare line with one star left behind its anchor is an empty rule.** -/
theorem addLine_of_bare (h : Glob.IsBare line) (hne : line ≠ []) (hlong : line.byteSize ≤ maxLine)
    (hstars : (Glob.dropLeadingStar (LineKind.behindAnchor line)).count '*' ≤ 1) :
    s.addLine maxLine number line = ⟨s, .invalid, [.droppedLine number .emptyPattern]⟩ := by
  obtain ⟨r, hkind, hanchor, hbody⟩ := LineKind.classify_of_bare h hne
  have hbare : Glob.IsBare r.body := hbody ▸ h.of_suffix (LineKind.suffix_behindAnchor line)
  have hempty := Rule.compile_of_bare hanchor hbare (hbody ▸ hstars)
  rw [addLine, if_neg (Nat.not_lt.mpr hlong), hkind]
  simp only [addRule, hempty]

/-! ## 3. Lists -/

/-- **A bare line with at most one star left blocks nothing.** Let some line of a list, without the
    blanks at its end, consist of wildcards and marks and, unless it is too long to be looked at,
    have no more than one star left behind its anchor and a star that stands right there. Whatever
    the list is loaded into, the rules come to what they come to without the line, and no request is
    answered differently. The line is counted as one invalid line and reported once, as an empty
    pattern under its number; but one that is too long is counted and reported as such, and an empty
    one is a comment. -/
theorem load_of_bare {s : RuleSet} {maxLine : Nat} {text raw line : Text} {before after : List Text}
    (hlines : Text.rawLines text = before ++ raw :: after) (htrim : raw.trimEnd = line)
    (hbare : Glob.IsBare line) (hstars : line.byteSize ≤ maxLine →
      (Glob.dropLeadingStar (LineKind.behindAnchor line)).count '*' ≤ 1) :
    let loaded := s.load maxLine text
    let without := s.load maxLine (before ++ after).flatten
    let reports cause := loaded.events.count (.droppedLine (before.length + 1) cause)
    (loaded.rules = without.rules ∧
      ∀ order memory r, Matcher.queryInOrder loaded.rules.index order memory r =
        Matcher.queryInOrder without.rules.index order memory r) ∧
    (line ≠ [] → line.byteSize ≤ maxLine →
      loaded.result = without.result.merge { lines := 1, invalid := 1 } ∧
        reports .emptyPattern = 1) ∧
    (maxLine < line.byteSize →
      loaded.result = without.result.merge { lines := 1, tooLong := 1 } ∧
        reports (.lineTooLong line.byteSize) = 1) ∧
    (line = [] → loaded.result = without.result.merge { lines := 1, comments := 1 }) := by
  subst htrim
  intro loaded without reports
  have hanswers : loaded.rules = without.rules → ∀ order memory r,
      Matcher.queryInOrder loaded.rules.index order memory r =
        Matcher.queryInOrder without.rules.index order memory r := by
    intro hrules order memory r
    rw [hrules]
  by_cases hnil : raw.trimEnd = []
  · have hinert : ∀ (t : RuleSet) number,
        t.addLine maxLine number raw.trimEnd = ⟨t, .comment, []⟩ := fun t number => hnil ▸ addLine_nil
    obtain ⟨hrules, hresult, -⟩ := load_of_inert (s := s) hlines hinert
    refine ⟨⟨hrules, hanswers hrules⟩, fun hne => absurd hnil hne, fun hlong => ?_,
      fun _ => hresult⟩
    rw [hnil] at hlong
    exact absurd hlong (Nat.not_lt_zero maxLine)
  by_cases hlong : maxLine < raw.trimEnd.byteSize
  · obtain ⟨hrules, hresult, hreports⟩ := load_of_inert (s := s) hlines
      fun t number => addLine_of_long hlong
    exact ⟨⟨hrules, hanswers hrules⟩, fun _ hfits => absurd hlong (Nat.not_lt.mpr hfits),
      fun _ => ⟨hresult, (hreports _).trans List.count_singleton_self⟩, fun h => absurd h hnil⟩
  · have hfits := Nat.not_lt.mp hlong
    obtain ⟨hrules, hresult, hreports⟩ := load_of_inert (s := s) hlines
      fun t number => addLine_of_bare hbare hnil hfits (hstars hfits)
    exact ⟨⟨hrules, hanswers hrules⟩,
      fun _ _ => ⟨hresult, (hreports _).trans List.count_singleton_self⟩,
      fun h => absurd h hlong, fun h => absurd h hnil⟩

/-- A line with blanks at its end that would be too long with them, between two rules. -/
theorem load_of_bare_marks :
    let loaded := ({} : RuleSet).load 6 "||ads^\n|*^*|+ \r\n||old^".toList
    let without := ({} : RuleSet).load 6 "||ads^\n||old^".toList
    loaded.rules = without.rules ∧ loaded.result = { lines := 3, rules := 2, invalid := 1 } ∧
      loaded.events.count (.droppedLine 2 .emptyPattern) = 1 := by
  intro loaded without
  have hlines : Text.rawLines "||ads^\n|*^*|+ \r\n||old^".toList =
      ["||ads^\n".toList] ++ "|*^*|+ \r\n".toList :: ["||old^".toList] := by decide
  have htrim : Text.trimEnd "|*^*|+ \r\n".toList = "|*^*|+".toList := by decide
  obtain ⟨⟨hrules, -⟩, hinvalid, -⟩ :=
    @load_of_bare {} 6 _ _ _ _ _ hlines htrim (by decide) (by decide)
  obtain ⟨hresult, hreports⟩ := hinvalid (by decide) (by decide)
  exact ⟨hrules, hresult.trans (by decide +kernel), hreports⟩

/-- With three stars something is left, which is filed and blocks. And a line over the limit is too
    long before it is anything else, as the empty one is a comment. -/
theorem bare_lines_differ :
    (∀ line ∈ ["***", "^^^^", ""], Glob.IsBare line.toList) ∧
      (let loaded := ({} : RuleSet).load 2000 "***\n".toList
       loaded.result = { lines := 1, rules := 1 } ∧ loaded.rules.index.isEmpty = false ∧
        (Matcher.query loaded.rules.index {}
          ⟨"http://anything/".toList, none, .script⟩).1.blocked = true) ∧
      (({} : RuleSet).load 3 "^^^^\n".toList).result = { lines := 1, tooLong := 1 } ∧
      (({} : RuleSet).load 2000 "\n".toList).result = { lines := 1, comments := 1 } := by
  decide +kernel

end RuleSet

end RequestFilter
