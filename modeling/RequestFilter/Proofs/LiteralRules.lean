import RequestFilter.Proofs.GlobMatching
import RequestFilter.Proofs.GlobRules
import RequestFilter.Proofs.Growth
import RequestFilter.Proofs.Search

/-!
# Literal rules

A rule that names a stretch of a URL blocks the requests whose URL contains the stretch.

* `Rule.literal`: the rule of a literal, with a separator mark behind it or not and with options or
  not; `compile_literal`: its pattern is the literal itself;
* `literal_answers`: **once such a rule is indexed, no rule and no list that comes later makes a URL
  with the literal in it pass** -- the rule got a window of the literal or a key, and the window is
  a window of every URL around the literal.

NOT here: rules that are shadowed, since what shadows a rule need not match the same URLs.
-/

namespace RequestFilter

namespace Rule

/-! ## 1. The rule -/

/-- The characters of options: ASCII letters and digits, the comma, the hyphen and the tilde. -/
def isOptionChar (c : Char) : Bool := c.isAlphanum || [',', '-', '~'].contains c

/-- The separator mark behind a literal, if there is one. -/
def separator (mark : Bool) : Text := if mark then ['^'] else []

/-- The rule of a literal, without an anchor. -/
def literal (b : Text) (mark : Bool) (options : Option Text) (kind : RuleKind) : Rule :=
  ⟨writeOptions (b ++ separator mark) options, [], kind⟩

section Literal

variable {b : Text} {mark : Bool} {options : Option Text} {kind : RuleKind}

theorem eq_caret_of_mem_separator {c : Char} (h : c ∈ separator mark) : c = '^' := by
  cases mark with
  | false => cases h
  | true => exact List.mem_singleton.mp h

/-- Behind the literal there is no slash. -/
theorem regexLiteral?_literal (hb : Glob.IsLiteral b)
    (ho : ∀ o ∈ options, ∀ c ∈ o, isOptionChar c = true) :
    regexLiteral? (literal b mark options kind).body = none := by
  have hmark : '/' ∉ separator mark := fun hm =>
    absurd (eq_caret_of_mem_separator hm) (by decide)
  refine regexLiteral?_eq_none fun before after h => ?_
  unfold literal writeOptions at h
  cases options with
  | none => exact signFree_of_append_slash hb.signFree hmark h
  | some o =>
    simp only [List.append_assoc] at h
    refine signFree_of_append_slash hb.signFree ?_ h
    rw [List.mem_append, List.mem_cons]
    intro hx
    rcases hx with hm | hm | hm
    · exact hmark hm
    · cases hm
    · exact absurd (ho o rfl _ hm) (by decide)

theorem splitOptions_literal (hb : Glob.IsLiteral b)
    (ho : ∀ o ∈ options, ∀ c ∈ o, isOptionChar c = true) :
    splitOptions (literal b mark options kind).body kind =
      (b ++ separator mark, joinOptions kind options) := by
  refine splitOptions_writeOptions ?_ (fun o hmem hm => absurd (ho o hmem _ hm) (by decide)) kind
  rw [List.mem_append]
  intro hx
  rcases hx with hm | hm
  · exact hb.signFree.notMem (by decide) hm
  · exact absurd (eq_caret_of_mem_separator hm) (by decide)

/-- The mark behind a literal vanishes. -/
theorem transliterate_literal (hb : Glob.IsLiteral b) :
    Glob.transliterate [] (b ++ separator mark) = b := by
  have hstar : '*' ∉ b ++ separator mark := by
    rw [List.mem_append]
    intro hx
    rcases hx with hm | hm
    · exact hb.starless hm
    · exact absurd (eq_caret_of_mem_separator hm) (by decide)
  have hmark : (separator mark).flatMap Glob.image = [] := by
    cases mark <;> rfl
  rw [Glob.transliterate_of_starless (by simp) hstar, List.nil_append, List.flatMap_append,
    Glob.flatMap_image_of_copied hb.copied, hmark, List.append_nil]

theorem isRegexText_of_isLiteral (hb : Glob.IsLiteral b) : isRegexText b = false := by
  unfold isRegexText
  split
  · rename_i rest
    have hmeaning : rest.dropLast.any (['^', '$', '*'].contains ·) = false := by
      refine List.any_eq_false.mpr fun c hc => ?_
      have hmem : c ∈ '/' :: rest := List.mem_cons_of_mem _ ((List.dropLast_subset rest) hc)
      have hcaret : c ≠ '^' := fun e => hb.signFree.notMem (by decide) (e ▸ hmem)
      have hdollar : c ≠ '$' := fun e => hb.signFree.notMem (by decide) (e ▸ hmem)
      have hstar : c ≠ '*' := fun e => hb.starless (e ▸ hmem)
      simp [hcaret, hdollar, hstar]
    rw [hmeaning, Bool.and_false]
  · rfl

/-- **The pattern of a literal rule is the literal, and it asks for signatures.** -/
theorem compile_literal {c : CompiledRule} (hb : Glob.IsLiteral b)
    (ho : ∀ o ∈ options, ∀ d ∈ o, isOptionChar d = true)
    (h : (literal b mark options kind).compile = .ok c) :
    c.pattern = ⟨.concat (b.map Glob.meaning), b, some (joinOptions kind options)⟩ ∧
      c.placement = .signatures := by
  obtain ⟨hparse, hraw, hoptions, hplace⟩ :=
    compile_glob (regexLiteral?_literal hb ho) (splitOptions_literal hb ho) h
  have htext : Glob.transliterate (literal b mark options kind).anchor (b ++ separator mark) = b :=
    transliterate_literal hb
  rw [htext] at hparse hraw
  have hmeaning := Regex.parse?_glob hb.signFree
  rw [Glob.flatMap_image_of_copied hb.copied] at hmeaning
  rw [hraw, isRegexText_of_isLiteral hb] at hplace
  refine ⟨?_, hplace⟩
  rw [← hoptions, ← Option.some.inj (hparse.symm.trans hmeaning), ← hraw]

end Literal

end Rule

namespace RuleIndex

/-! ## 2. What it blocks -/

/-- A window that a literal rule asks for is a window of every URL around the literal, and a rule
    that got none has a key. -/
theorem leadsTo_of_infix {c : CompiledRule} {I J : RuleIndex} {b url : Text} (hI : WellFormed I)
    (hb : Glob.IsLiteral b) (hraw : c.pattern.raw = b) (hplace : c.placement = .signatures)
    (h : I.Filed J c.pattern (c.signaturesIn I) (c.keyIn I)) (hurl : b <:+: url) :
    J.LeadsTo url I.patterns.size := by
  refine (CompiledRule.leadsTo_iff h hI).mpr ?_
  rcases h.free with ⟨w, hw, -⟩ | ⟨k, hk, -⟩
  · refine Or.inr ⟨w, hw, ?_⟩
    simp only [CompiledRule.signaturesIn, hplace, hraw] at hw
    have hfound : b <:+: Glob.normalizeUrl url := Glob.infix_normalizeUrl hb.copied hurl
    exact Signature.windows_mono (mem_freeWindows.mp hw).1.1 hfound
  · exact Or.inl (hk ▸ rfl)

/-- **A literal rule that was indexed is never lost**: whatever is compiled into the index
    afterwards, requests for a URL with the literal in it are blocked -- from every page, unless the
    rule is for third parties only. -/
theorem literal_answers {I J K : RuleIndex} {b : Text} {mark : Bool} {options : Option Text}
    {kind : RuleKind} {id : PatternId} {n : Nat} {full : Bool} {r : Request} (hI : Reachable I)
    (hb : Glob.IsLiteral b) (ho : ∀ o ∈ options, ∀ c ∈ o, Rule.isOptionChar c = true)
    (hindexed : I.compileRule (.literal b mark options kind) = .ok (.indexed id n full, J))
    (hgrows : J.Grows K) (hdoc : r.type ≠ .document) (hurl : b <:+: r.url)
    (hpage : r.page = none ∨
      ∀ o ∈ options, PatternFlags.mentions o "third-party".toList = false) :
    K.Answers r true := by
  obtain ⟨c, hc, -, -, hfiled⟩ := compileRule_indexed hindexed
  obtain ⟨hpattern, hplace⟩ := Rule.compile_literal hb ho hc
  have hlead : J.LeadsTo r.url I.patterns.size :=
    leadsTo_of_infix hI.wellFormed hb (by rw [hpattern]) hplace hfiled hurl
  have hmatch : c.pattern.matchesIn r.url = true := by
    rw [hpattern]
    exact Regex.matchesIn_of_covers (Glob.covers_self hb.starless) hurl
  have hflags : r.page = none ∨ c.pattern.isThirdParty = false := by
    refine hpage.imp_right fun hnone => ?_
    rw [hpattern]
    show (PatternFlags.ofOptions _).thirdParty = false
    rw [PatternFlags.thirdParty_joinOptions, Option.any_eq_false]
    simpa using hnone
  have hstops : J.Stops r :=
    hfiled.stops hlead hmatch hflags (hb.ne_nil_of_infix hurl) hdoc
  exact answers_true_iff.mpr (hgrows.extends.stops hstops)

/-- A list that comes later does not take the rule away. -/
theorem literal_answers_banner : ∃ J, Reachable {} ∧
    ({} : RuleIndex).compileRule
      (.literal "ads.example.com/banner".toList true (some "third-party".toList) .fullUri) =
        .ok (.indexed 0 15 false, J) ∧
    RuleIndex.Answers ((⟨J, {}⟩ : RuleSet).load 2000 "example.com\n".toList).rules.index
      ⟨"http://ads.example.com/banner?x=1".toList, none, .script⟩ true := by
  have hb : Glob.IsLiteral "ads.example.com/banner".toList :=
    ⟨by decide, Glob.signFree_of_any (by decide), by decide⟩
  have ho : ∀ o ∈ some "third-party".toList, ∀ c ∈ o, Rule.isOptionChar c = true := by
    intro o ho
    obtain rfl := Option.some.inj ho
    exact List.all_eq_true.mp (by decide)
  obtain ⟨J, hJ⟩ := exists_compileRule (show (({} : RuleIndex).compileRule (.literal
    "ads.example.com/banner".toList true (some "third-party".toList) .fullUri)).toOption.map
      Prod.fst = some (.indexed 0 15 false) by decide +kernel)
  have hgrows : J.Grows ((⟨J, {}⟩ : RuleSet).load 2000 "example.com\n".toList).rules.index :=
    Grows.list (s := ⟨J, {}⟩) .refl 2000 "example.com\n".toList
  exact ⟨J, .refl, hJ, literal_answers .refl hb ho hJ hgrows (by decide)
    ⟨"http://".toList, "?x=1".toList, by decide⟩ (Or.inl rfl)⟩

end RuleIndex

end RequestFilter
