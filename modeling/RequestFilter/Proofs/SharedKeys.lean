import RequestFilter.Proofs.BetweenSlashes
import RequestFilter.Proofs.Origins

/-!
# Rules that share a key

A key of the pattern map says less than the rule it came from: the key of a glob has no options,
and a line that is a regular expression may be, slashes and all, the text that a glob becomes. The
rule that comes second is shadowed, and what it would have blocked is left to the first one.

* `Rule.compile_cases`: a rule is compiled as a regular expression or as a glob; `FromLiteral` and
  `FromGlob` say what becomes of it;
* `Glob.plain_flatMap_image`: the text that a glob becomes has no alternatives and no modes;
* `CompiledRule.LostTo`: what a rule loses to the pattern that holds its key; `confirms_of_key_eq`:
  **of two rules with one key the first confirms what the second confirms and does not lose to it**;
* `RuleIndex.shadowed_answers`: **a shadowed rule loses nothing else**; `shadowed_loses`: both
  losses occur.
-/

namespace RequestFilter

/-! ## 1. The two kinds of rules -/

/-- The rule is a regular expression, written between the slashes of its line. -/
structure CompiledRule.FromLiteral (c : CompiledRule) (line body : Text) (options : Option Text) :
    Prop where
  written : Rule.regexLiteral? line = some (body, options)
  placement : c.placement = .literal line
  raw : c.pattern.raw = body
  options : c.pattern.options = some (Rule.joinOptions .uri options)

/-- The rule is a glob without its options. -/
structure CompiledRule.FromGlob (c : CompiledRule) (anchor glob : Text) : Prop where
  dollar : '$' ∉ glob
  raw : c.pattern.raw = Glob.transliterate anchor glob
  placement : ∀ line, c.placement ≠ .literal line

namespace Rule

variable {r : Rule} {c : CompiledRule}

/-- The text of a line in front of its options has no dollar sign. -/
theorem dollar_notMem_splitOptions (line : Text) (kind : RuleKind) :
    '$' ∉ (splitOptions line kind).1 := by
  have hpiece : ∀ piece ∈ Text.splitOn '$' line, '$' ∉ piece :=
    fun piece h => Text.notMem_of_mem_splitOn h
  unfold splitOptions
  split
  · exact List.not_mem_nil
  · rename_i pattern h
    exact hpiece pattern (by simp [h])
  · rename_i pattern options h
    exact hpiece pattern (by simp [h])
  · rename_i first second rest _ h
    simp [hpiece first (by simp [h]), hpiece second (by simp [h])]

theorem compileLiteral_eq_ok {line body options : Text}
    (h : compileLiteral line body options = .ok c) :
    compilePattern body options = .ok c.pattern ∧ c.placement = .literal line := by
  unfold compileLiteral at h
  split at h
  · cases h
  split at h
  · cases h
  cases hp : compilePattern body options with
  | error e => simp [hp, Except.map] at h
  | ok p =>
    simp only [hp, Except.map, Except.ok.injEq] at h
    subst h
    exact ⟨rfl, rfl⟩

/-- **A rule is a regular expression or a glob.** -/
theorem compile_cases (h : r.compile = .ok c) :
    Regex.compile c.pattern.raw = .ok c.pattern.regex ∧
      ((∃ body options, c.FromLiteral r.body body options) ∨ ∃ glob, c.FromGlob r.anchor glob) := by
  unfold compile at h
  split at h
  · rename_i body options hlit
    obtain ⟨hkind, hwritten⟩ : r.kind = .uri ∧ regexLiteral? r.body = some (body, options) := by
      simpa using hlit
    obtain ⟨hpattern, hplace⟩ := compileLiteral_eq_ok h
    obtain ⟨hregex, hraw, hoptions⟩ := compilePattern_eq_ok hpattern
    rw [hkind] at hoptions
    exact ⟨hraw ▸ hregex, Or.inl ⟨body, options, hwritten, hplace, hraw, hoptions⟩⟩
  · obtain ⟨hpattern, hplace⟩ := compileGlob_eq_ok h
    obtain ⟨hregex, hraw, -⟩ := compilePattern_eq_ok hpattern
    have hglob : ∀ line, c.placement ≠ .literal line := by
      intro line
      rw [hplace]
      split <;> simp
    exact ⟨hraw ▸ hregex, Or.inr ⟨_, dollar_notMem_splitOptions r.body r.kind, hraw, hglob⟩⟩

/-- A line that is a regular expression, with its options. -/
theorem eq_of_regexLiteral? {line body : Text} {options : Option Text}
    (h : regexLiteral? line = some (body, options)) :
    line = '/' :: body ++ '/' :: (options.map ('$' :: ·)).getD [] :=
  (regexLiteral?_eq_some_iff.mp h).1.eq_append

end Rule

/-! ## 2. The texts of globs -/

namespace Glob

theorem dollar_mem_image {c : Char} (h : '$' ∈ image c) : c = '$' := by
  rcases image_forms c with rfl | rfl | hnil | ⟨hself, -⟩
  · exact absurd h (by decide)
  · exact absurd h (by decide)
  · exact absurd (hnil ▸ h) List.not_mem_nil
  · exact (List.mem_singleton.mp (hself ▸ h)).symm

theorem bar_notMem_image (c : Char) : '|' ∉ image c := by
  rcases image_forms c with rfl | rfl | hnil | ⟨hself, -, hbar⟩
  · decide
  · decide
  · rw [hnil]
    exact List.not_mem_nil
  · rw [hself]
    exact fun h => hbar (List.mem_singleton.mp h).symm

/-- **The text that a glob becomes has no alternatives, and no group that starts with a question
    mark.** -/
theorem plain_flatMap_image (glob : Text) : Parser.Plain (glob.flatMap image) where
  bar h := by
    obtain ⟨c, -, hc⟩ := List.mem_flatMap.mp h
    exact bar_notMem_image c hc
  question := by
    induction glob with
    | nil => simp
    | cons c rest ih =>
      -- a parenthesis is its own image, and behind it the next image starts
      rw [List.flatMap_cons]
      rcases image_forms c with rfl | rfl | hnil | ⟨hself, -⟩
      · simpa [image, List.infix_cons_iff] using ih
      · simpa [image, List.infix_cons_iff] using ih
      · rwa [hnil]
      · rw [hself, List.singleton_append, List.infix_cons_iff, List.cons_prefix_cons]
        rintro (⟨-, hhead⟩ | hrest)
        · obtain ⟨after, hafter⟩ := hhead
          exact head?_flatMap_image rest (by rw [← hafter]; rfl)
        · exact ih hrest

end Glob

/-! ## 3. One key -/

/-- The pattern is one for third parties and matches the page. -/
def Pattern.Spares (p : Pattern) (page : Option Text) : Prop :=
  p.isThirdParty = true ∧ ∃ site, page = some site ∧ p.matchesIn site = true

namespace CompiledRule

variable {c d : CompiledRule} {line body anchor glob : Text} {options : Option Text}

theorem FromLiteral.key (h : c.FromLiteral line body options) : c.key = line := by
  unfold CompiledRule.key
  rw [h.placement]

theorem FromGlob.key (h : c.FromGlob anchor glob) : c.key = c.pattern.raw := by
  unfold CompiledRule.key
  cases hplace : c.placement with
  | literal line => exact absurd hplace (h.placement line)
  | regexText => rfl
  | signatures => rfl

/-- Without options a regular expression is not for third parties. -/
theorem FromLiteral.isThirdParty (h : c.FromLiteral line body none) :
    c.pattern.isThirdParty = false := by
  rw [Pattern.isThirdParty, Pattern.flags, h.options]
  exact PatternFlags.thirdParty_joinOptions .uri none

/-- The text that a glob becomes is its anchor and plain text behind it, up to the end. -/
theorem FromGlob.raw_prefix (h : c.FromGlob anchor glob) :
    ∃ inner : Text, '$' ∉ inner ∧ c.pattern.raw <+: anchor ++ inner.flatMap Glob.image :=
  ⟨Glob.dropLeadingStar glob, fun hm => h.dollar ((Glob.suffix_dropLeadingStar glob).subset hm),
    h.raw ▸ Glob.dropTrailingWildcard_start _⟩

/-- **A glob with the key of a regular expression is this expression between slashes.** -/
theorem FromGlob.eq_slashes (hc : c.FromGlob anchor glob) (hanchor : anchor = [] ∨ anchor = ['^'])
    (hd : d.FromLiteral line body options) (hkey : c.key = d.key) :
    options = none ∧ c.pattern.raw = '/' :: body ++ ['/'] ∧ Parser.Plain body := by
  have hline := Rule.eq_of_regexLiteral? hd.written
  obtain ⟨inner, hdollar, hpre⟩ := hc.raw_prefix
  rw [hc.key, hd.key] at hkey
  rw [hkey, hline] at hpre
  rcases hanchor with rfl | rfl
  · have hinfix : '/' :: body ++ '/' :: (options.map ('$' :: ·)).getD [] <:+:
        inner.flatMap Glob.image := hpre.isInfix
    have hnone : options = none := by
      cases options with
      | none => rfl
      | some o =>
        have hmem : '$' ∈ inner.flatMap Glob.image := hinfix.subset (by simp)
        obtain ⟨d, hd, himage⟩ := List.mem_flatMap.mp hmem
        exact absurd (Glob.dollar_mem_image himage ▸ hd) hdollar
    subst hnone
    have hplain := Glob.plain_flatMap_image inner
    refine ⟨rfl, hkey.trans hline, hplain.of_infix ?_⟩
    exact List.IsInfix.trans ⟨['/'], ['/'], by simp⟩ hinfix
  · exact absurd (List.cons_prefix_cons.mp hpre).1 (by decide)

/-- Of two patterns with one expression the second confirms what the first confirms, unless it is
    for third parties and the first is not. -/
theorem confirms_of_regex_eq {p p' : Pattern} (hregex : p'.regex = p.regex) {url : Text}
    {page : Option Text} (h : p.Confirms url page) :
    p'.Confirms url page ∨ (p.isThirdParty = false ∧ p'.Spares page) := by
  have hmatches : ∀ t, p'.matchesIn t = p.matchesIn t := fun t => by
    rw [Pattern.matchesIn, hregex, Pattern.matchesIn]
  by_cases hspares : p'.Spares page
  · refine Or.inr ⟨?_, hspares⟩
    obtain ⟨-, site, hsite, hmatch⟩ := hspares
    refine Bool.eq_false_iff.mpr fun hthird => h.2 ⟨hthird, site, hsite, ?_⟩
    rw [← hmatches, hmatch]
  · exact Or.inl ⟨(hmatches url).trans h.1, hspares⟩

/-- What a rule loses to the pattern that holds its key: requests of pages that only this pattern
    spares, and where the rule is a regular expression written like the text of the pattern, what
    the pattern does not confirm itself. -/
def LostTo (c : CompiledRule) (p : Pattern) (q : Request) : Prop :=
  (c.pattern.isThirdParty = false ∧ p.Spares q.page) ∨
    (c.placement = .literal p.raw ∧ ¬ p.Confirms q.url q.page)

/-- **Of two rules with one key the holder confirms what the other one confirms, or it is lost.** -/
theorem confirms_of_key_eq {r s : Rule} (hc : r.compile = .ok c) (hd : s.compile = .ok d)
    (hanchor : r.anchor = [] ∨ r.anchor = ['^']) (hkey : c.key = d.key) {q : Request}
    (h : c.pattern.Confirms q.url q.page) :
    d.pattern.Confirms q.url q.page ∨ c.LostTo d.pattern q := by
  obtain ⟨hregex, hc⟩ := Rule.compile_cases hc
  obtain ⟨hregex', hd⟩ := Rule.compile_cases hd
  have hsame (hraw : d.pattern.raw = c.pattern.raw) :
      d.pattern.Confirms q.url q.page ∨ c.LostTo d.pattern q := by
    rw [hraw, hregex] at hregex'
    exact (confirms_of_regex_eq (Except.ok.inj hregex').symm h).imp_right Or.inl
  rcases hc with ⟨body, options, hc⟩ | ⟨glob, hc⟩ <;>
    rcases hd with ⟨body', options', hd⟩ | ⟨glob', hd⟩
  · -- two regular expressions with one key are one line
    have hline : r.body = s.body := by rw [← hc.key, hkey, hd.key]
    have hbody := hc.written.symm.trans (hline ▸ hd.written)
    refine hsame ?_
    rw [hc.raw, hd.raw, (Prod.mk.inj (Option.some.inj hbody)).1]
  · -- a regular expression behind a glob, which has the slashes in its expression
    have hplace : c.placement = .literal d.pattern.raw := by
      rw [hc.placement, ← hd.key, ← hkey, hc.key]
    by_cases hconfirms : d.pattern.Confirms q.url q.page
    · exact Or.inl hconfirms
    · exact Or.inr (Or.inr ⟨hplace, hconfirms⟩)
  · -- a glob behind a regular expression, which is without the slashes and without options
    obtain ⟨rfl, hraw, hplain⟩ := hc.eq_slashes hanchor hd hkey
    have hinner := Regex.parse?_of_compile hregex'
    have houter := Regex.parse?_of_compile hregex
    rw [hd.raw] at hinner
    rw [hraw] at houter
    refine Or.inl ⟨Regex.matchesIn_of_slashes hplain hinner houter h.1, fun hspares => ?_⟩
    exact Bool.false_ne_true (hd.isThirdParty.symm.trans hspares.1)
  · -- two globs with one key are one text
    exact hsame (by rw [← hc.key, hkey, hd.key])

end CompiledRule

/-! ## 4. Shadowed rules -/

namespace RuleIndex

/-- The pattern map keeps the pattern under the key. -/
def Holds (I : RuleIndex) (key : Text) (p : Pattern) : Prop :=
  ∃ id, I.fullPattern key = some id ∧ I.pattern id = some p

/-- A reachable index stems from rules. -/
theorem Reachable.stemsFrom {I : RuleIndex} (h : Reachable I) :
    StemsFrom (fun c => ∃ r : Rule, r.compile = .ok c) I := by
  refine Grows.preserves (fun hJ hr => ?_) h (stemsFrom_empty _)
  obtain ⟨c, hc, hplace⟩ := compileRule_eq_ok.mp hr
  exact stemsFrom_place hJ ⟨_, hc⟩ hplace

/-- A rule without slots is shadowed where its key is held. -/
theorem holds_of_shadowed {I J : RuleIndex} {c : CompiledRule} (hI : Reachable I)
    (hslots : c.slots = []) (h : c.place I = (.shadowed, J)) :
    ∃ d, (∃ s : Rule, s.compile = .ok d) ∧ c.key = d.key ∧ I.Holds c.key d.pattern := by
  have hJ : J = I := by
    rcases CompiledRule.place_cases h with ⟨ho, -⟩ | ⟨-, hJ⟩
    · cases ho
    · exact hJ
  have hfull := (CompiledRule.covered_of_place h).fullPattern hslots
  rw [hJ, hasFullPattern_eq] at hfull
  obtain ⟨id, hid⟩ := Option.isSome_iff_exists.mp hfull
  obtain ⟨d, hd, hp, hkey⟩ := hI.stemsFrom.fullPattern _ id hid
  exact ⟨d, hd, hkey, id, hid, hp⟩

/-- **A shadowed rule loses nothing but what the holder of its key leaves alone.** A rule that would
    live in the pattern map only is shadowed where a pattern holds its key, and what the rule blocks
    on its own the index blocks already, unless the rule loses it to this pattern. -/
theorem shadowed_answers {I J : RuleIndex} {r : Rule} {c : CompiledRule} (hI : Reachable I)
    (hanchor : r.anchor = [] ∨ r.anchor = ['^']) (hc : r.compile = .ok c) (hslots : c.slots = [])
    (h : I.compileRule r = .ok (.shadowed, J)) :
    ∃ p, I.Holds c.key p ∧ ∀ q : Request, q.type ≠ .document → q.url ≠ [] →
      c.pattern.Confirms q.url q.page → I.Answers q true ∨ c.LostTo p q := by
  obtain ⟨c', hc', hplace⟩ := compileRule_eq_ok.mp h
  obtain rfl := Except.ok.inj (hc.symm.trans hc')
  obtain ⟨d, ⟨s, hd⟩, hkey, id, hid, hp⟩ := holds_of_shadowed hI hslots hplace
  refine ⟨d.pattern, ⟨id, hid, hp⟩, fun q hdoc hne hconfirms => ?_⟩
  refine (CompiledRule.confirms_of_key_eq hc hd hanchor hkey hconfirms).imp_left fun hheld => ?_
  have hblocks : I.Blocks q.url q.page :=
    ⟨id, d.pattern, Or.inr ⟨c.key, hid⟩, hp, Matcher.check_iff_confirms.mpr hheld⟩
  exact answers_true_iff.mpr ⟨hdoc, hne, hblocks⟩

/-- A line that is a regular expression, and one that has the same text as a glob. -/
def digitRule : Rule := ⟨"/[0]/".toList, [], .uri⟩
def digitGlob : Rule := ⟨"/[0]/^".toList, [], .uri⟩

/-- The glob is shadowed by the regular expression, which blocks what the glob would block. -/
theorem shadowed_answers_digit : ∃ c J p, Reachable (({} : RuleIndex).after digitRule) ∧
    digitGlob.anchor = [] ∧ digitGlob.compile = .ok c ∧ c.slots = [] ∧
    (({} : RuleIndex).after digitRule).compileRule digitGlob = .ok (.shadowed, J) ∧
    (({} : RuleIndex).after digitRule).Holds c.key p ∧
    (({} : RuleIndex).after digitRule).Answers ⟨"http://x/0/y".toList, none, .script⟩ true := by
  have hI : Reachable (({} : RuleIndex).after digitRule) := grows_after {} digitRule
  obtain ⟨c, hc, heval⟩ := exists_ok_of_map (show digitGlob.compile.toOption.map (fun c =>
    (c.slots, c.placement, (Matcher.check c.pattern "http://x/0/y".toList none).1)) =
      some ([], .signatures, true) by decide +kernel)
  obtain ⟨hslots, hplace, hconfirms⟩ : c.slots = [] ∧ c.placement = .signatures ∧
      (Matcher.check c.pattern "http://x/0/y".toList none).1 = true := by simpa using heval
  obtain ⟨J, hJ⟩ := exists_compileRule (show ((({} : RuleIndex).after digitRule).compileRule
    digitGlob).toOption.map Prod.fst = some .shadowed by decide +kernel)
  obtain ⟨p, hholds, hall⟩ := shadowed_answers hI (Or.inl rfl) hc hslots hJ
  refine ⟨c, J, p, hI, rfl, hc, hslots, hJ, hholds, ?_⟩
  refine (hall ⟨"http://x/0/y".toList, none, .script⟩ (by decide) (by decide)
    (Matcher.check_iff_confirms.mp hconfirms)).resolve_right ?_
  rintro (⟨-, -, site, hsite, -⟩ | ⟨hliteral, -⟩)
  · cases hsite
  · rw [hplace] at hliteral
    cases hliteral

/-- A rule that would live in the pattern map only is shadowed, and a request that it would block on
    its own passes. -/
def Loses (I : RuleIndex) (r : Rule) (q : Request) : Prop :=
  ∃ c, r.compile = .ok c ∧ c.slots = [] ∧ I.compileRule r = .ok (.shadowed, I) ∧
    q.type ≠ .document ∧ q.url ≠ [] ∧ c.pattern.Confirms q.url q.page ∧ I.Answers q false

theorem loses_of_query {I : RuleIndex} {r : Rule} {q : Request} (hdoc : q.type ≠ .document)
    (hne : q.url ≠ []) (hrule : r.compile.toOption.map (fun c =>
      (c.slots, (Matcher.check c.pattern q.url q.page).1)) = some ([], true))
    (hshadowed : (I.compileRule r).toOption.map Prod.fst = some .shadowed)
    (hpass : (Matcher.query I {} q).1.blocked = false) : I.Loses r q := by
  obtain ⟨c, hc, heval⟩ := exists_ok_of_map hrule
  obtain ⟨hslots, hconfirms⟩ := Prod.mk.inj heval
  obtain ⟨J, hJ⟩ := exists_compileRule hshadowed
  obtain ⟨_, _, ⟨ho, -⟩ | ⟨-, rfl⟩⟩ := compileRule_cases hJ
  · cases ho
  · exact ⟨c, hc, hslots, hJ, hdoc, hne, Matcher.check_iff_confirms.mp hconfirms,
      answers_iff_query.mpr hpass⟩

/-- Both losses occur: a rule for all requests behind the same one for third parties, and a regular
    expression behind a glob of the same text. -/
theorem shadowed_loses :
    Reachable (({} : RuleIndex).after ⟨"ads$third-party".toList, [], .uri⟩) ∧
    (({} : RuleIndex).after ⟨"ads$third-party".toList, [], .uri⟩).Loses ⟨"ads".toList, [], .uri⟩
      ⟨"http://ads.net/x.js".toList, some "http://ads.net/".toList, .script⟩ ∧
    Reachable (({} : RuleIndex).after ⟨"/[0]/".toList, [], .fullUri⟩) ∧
    (({} : RuleIndex).after ⟨"/[0]/".toList, [], .fullUri⟩).Loses digitRule
      ⟨"http://x/10".toList, none, .script⟩ := by
  refine ⟨grows_after {} _, ?_, grows_after {} _, ?_⟩
  · exact loses_of_query (by decide) (by decide) (by decide +kernel) (by decide +kernel)
      (by decide +kernel)
  · exact loses_of_query (by decide) (by decide) (by decide +kernel) (by decide +kernel)
      (by decide +kernel)

end RuleIndex

end RequestFilter
