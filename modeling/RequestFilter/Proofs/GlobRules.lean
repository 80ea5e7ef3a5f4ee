import RequestFilter.Proofs.Filing
import RequestFilter.Proofs.GlobReading
import RequestFilter.Proofs.SlashedLines

/-!
# Rules that are globs

A rule whose text has no sign of a regular expression is compiled as a glob, whatever mark and
options stand behind the text.

* `writeOptions`: a pattern with its options; `splitOptions_writeOptions` takes them apart again;
* `regexLiteral?_eq_none`: a line is no regular expression if nothing in front of a slash is a sign;
* `mentions_joinOptions`: what is among the options of a rule, its kind included;
  `thirdParty_joinOptions`: the options say whether the rule is for third parties, its kind does
  not;
* `Glob.IsLiteral`: a text that stands for itself;
* `compile_glob`: **what the compilation of a glob comes to** -- the transliterated text, read as a
  regular expression, and the placement that this text asks for.
-/

namespace RequestFilter

namespace Rule

/-! ## 1. Lines -/

/-- A pattern with its options, if there are any, as they are written on a line. -/
def writeOptions (pattern : Text) : Option Text → Text
  | none => pattern
  | some options => pattern ++ '$' :: options

theorem splitOptions_writeOptions {pattern : Text} {options : Option Text} (hp : '$' ∉ pattern)
    (ho : ∀ o ∈ options, '$' ∉ o) (kind : RuleKind) :
    splitOptions (writeOptions pattern options) kind = (pattern, joinOptions kind options) := by
  unfold splitOptions writeOptions
  cases options with
  | none =>
    rw [Text.splitOn_eq_singleton hp]
    rfl
  | some o =>
    rw [Text.splitOn_append_sep, Text.splitOn_eq_singleton hp,
      Text.splitOn_eq_singleton (ho o rfl)]
    rfl

/-- A line is no regular expression if nothing in front of a slash is a sign of one. -/
theorem regexLiteral?_eq_none {line : Text}
    (h : ∀ before after, line = before ++ '/' :: after → Glob.SignFree before) :
    regexLiteral? line = none := by
  rw [regexLiteral?_eq_none_iff]
  intro body options hline hsign
  -- the body of a regular expression stands between the first slash and some other one
  obtain ⟨c, hc, hsign⟩ := List.any_eq_true.mp (any_isRegexSign.mpr hsign)
  rw [(h _ _ hline.eq_append).tail c hc] at hsign
  cases hsign

/-- What stands in front of a slash has no signs, if the signs of the line have no slash behind
    them. -/
theorem signFree_of_append_slash {glob rest before after : Text} (hg : Glob.SignFree glob)
    (hrest : '/' ∉ rest) (h : glob ++ rest = before ++ '/' :: after) : Glob.SignFree before := by
  rcases List.append_eq_append_iff.mp h with ⟨mid, -, htail⟩ | ⟨mid, hglob, -⟩
  · exact absurd (htail ▸ List.mem_append_right mid List.mem_cons_self) hrest
  · exact hg.of_infix (hglob ▸ List.infix_append [] before mid)

/-- A line without signs is a glob, and has no options. -/
theorem takenApart_of_signFree {body : Text} (h : Glob.SignFree body) (kind : RuleKind) :
    regexLiteral? body = none ∧ splitOptions body kind = (body, kind.tag) := by
  have hnone : ∀ o ∈ (none : Option Text), '$' ∉ o := by simp
  refine ⟨regexLiteral?_eq_none fun before after hline => ?_, ?_⟩
  · exact h.of_infix (hline ▸ List.infix_append [] before ('/' :: after))
  · exact splitOptions_writeOptions (h.notMem (by decide)) hnone kind

end Rule

/-! ## 2. Options -/

namespace PatternFlags

/-- The items of two lists of options are the items of both. -/
theorem mentions_append_comma (s t word : Text) :
    mentions (s ++ ',' :: t) word = (mentions s word || mentions t word) := by
  simp only [mentions, items, Text.splitOn_append_sep, List.map_append, List.any_append]

/-- No options have no word among them. -/
theorem mentions_nil {word : Text} (hword : word ≠ []) : mentions [] word = false := by
  cases word with
  | nil => exact absurd rfl hword
  | cons c word => rfl

/-- The items of a rule's options are its kind and those that are written. -/
theorem mentions_joinOptions (kind : RuleKind) (options : Option Text) {word : Text}
    (hword : word ≠ []) : mentions (Rule.joinOptions kind options) word =
      (mentions kind.tag word || options.any (mentions · word)) := by
  unfold Rule.joinOptions
  split
  · rw [Option.any_none, Bool.or_false]
  · rw [Option.any_some, mentions_nil hword, Bool.or_false]
  · rw [mentions_append_comma, Option.any_some]

/-- A kind says nothing about third parties, so only the options of the rule do. -/
theorem thirdParty_joinOptions (kind : RuleKind) (options : Option Text) :
    (ofOptions (Rule.joinOptions kind options)).thirdParty =
      options.any (mentions · "third-party".toList) := by
  have htag : mentions kind.tag "third-party".toList = false := by
    cases kind <;> decide
  show mentions (Rule.joinOptions kind options) "third-party".toList = _
  rw [mentions_joinOptions kind options (by decide), htag, Bool.false_or]

end PatternFlags

/-! ## 3. Compilation -/

/-- A text that stands for itself: it is not empty, and none of its characters has a meaning in a
    glob or in a regular expression, the dot excepted. -/
structure Glob.IsLiteral (b : Text) : Prop where
  ne_nil : b ≠ []
  signFree : SignFree b
  starless : '*' ∉ b

theorem Glob.IsLiteral.copied {b : Text} (h : IsLiteral b) : Copied b :=
  h.signFree.copied h.starless

/-- A request that contains a literal is not the empty one. -/
theorem Glob.IsLiteral.ne_nil_of_infix {b url : Text} (h : IsLiteral b) (hurl : b <:+: url) :
    url ≠ [] := fun he => h.ne_nil (List.infix_nil.mp (he ▸ hurl))

theorem Regex.parse?_of_compile {t : Text} {r : Regex} (h : compile t = .ok r) :
    parse? t = some r := by
  unfold compile at h
  split at h
  · cases h
  · rename_i r' hparse
    split at h
    · rw [hparse, Except.ok.inj h]
    · cases h

namespace Rule

/-- A pattern is what its text is read as. -/
theorem compilePattern_eq_ok {raw options : Text} {p : Pattern}
    (h : compilePattern raw options = .ok p) :
    Regex.compile raw = .ok p.regex ∧ p.raw = raw ∧ p.options = some options := by
  unfold compilePattern Pattern.compile at h
  cases hregex : Regex.compile raw with
  | error e => simp [hregex, Except.map, Except.mapError] at h
  | ok regex =>
    simp only [hregex, Except.map, Except.mapError, Except.ok.injEq] at h
    subst h
    exact ⟨rfl, rfl, rfl⟩

theorem compileGlob_eq_ok {anchor glob options : Text} {c : CompiledRule}
    (h : compileGlob anchor glob options = .ok c) :
    compilePattern (Glob.transliterate anchor glob) options = .ok c.pattern ∧
      c.placement = if isRegexText c.pattern.raw then .regexText else .signatures := by
  unfold compileGlob at h
  split at h
  · cases h
  split at h
  · cases h
  simp only at h
  split at h
  · cases h
  cases hp : compilePattern (Glob.transliterate anchor glob) options with
  | error e => simp [hp, Except.map] at h
  | ok p =>
    simp only [hp, Except.map, Except.ok.injEq] at h
    subst h
    exact ⟨rfl, by rw [(compilePattern_eq_ok hp).2.1]⟩

/-- The regular expression that a rule stands for as a glob, without its options. -/
def globText (r : Rule) : Text := Glob.transliterate r.anchor (splitOptions r.body r.kind).1

/-- A rule that is no regular expression of its own is compiled as a glob. -/
theorem compile_eq_compileGlob {r : Rule} (h : r.kind = .uri → regexLiteral? r.body = none) :
    r.compile = compileGlob r.anchor (splitOptions r.body r.kind).1
      (splitOptions r.body r.kind).2 := by
  have hnone : (if r.kind = .uri then regexLiteral? r.body else none) = none := by
    split
    · rename_i hkind
      exact h hkind
    · rfl
  rw [compile, hnone]

/-- **A glob compiles to its text**, with the options of the rule. -/
theorem compile_globText {r : Rule} {c : CompiledRule}
    (h : r.kind = .uri → regexLiteral? r.body = none) (hc : r.compile = .ok c) :
    c.pattern.raw = r.globText ∧ c.pattern.options = some (splitOptions r.body r.kind).2 ∧
      c.placement = if isRegexText c.pattern.raw then .regexText else .signatures := by
  rw [compile_eq_compileGlob h] at hc
  obtain ⟨hpattern, hplace⟩ := compileGlob_eq_ok hc
  obtain ⟨-, hraw, hoptions⟩ := compilePattern_eq_ok hpattern
  exact ⟨hraw, hoptions, hplace⟩

/-- **A glob compiles to its transliterated text.** -/
theorem compile_glob {r : Rule} {glob options : Text} {c : CompiledRule}
    (hlit : regexLiteral? r.body = none) (hsplit : splitOptions r.body r.kind = (glob, options))
    (h : r.compile = .ok c) :
    Regex.parse? (Glob.transliterate r.anchor glob) = some c.pattern.regex ∧
      c.pattern.raw = Glob.transliterate r.anchor glob ∧ c.pattern.options = some options ∧
      c.placement = if isRegexText c.pattern.raw then .regexText else .signatures := by
  have hglob : compileGlob r.anchor glob options = .ok c := by
    simpa [compile, hlit, hsplit] using h
  obtain ⟨hpattern, hplace⟩ := compileGlob_eq_ok hglob
  obtain ⟨hregex, hraw, hoptions⟩ := compilePattern_eq_ok hpattern
  exact ⟨Regex.parse?_of_compile hregex, hraw, hoptions, hplace⟩

end Rule

end RequestFilter
