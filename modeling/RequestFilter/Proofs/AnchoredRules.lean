import RequestFilter.Proofs.GlobMatching
import RequestFilter.Proofs.GlobRules
import RequestFilter.Proofs.Growth
import RequestFilter.Proofs.Search

/-!
# Anchored rules

A rule anchored at the start of the URL asks for the windows of its text with the anchor in front.
The first of them starts with the anchor, and no URL has it: the normal form of a URL has no `^`.

* `compile_anchored`: the pattern of an anchored literal is the literal at the start of the URL;
* `RuleIndex.SureStart`: the rule got a key, or a window without the anchor in it;
* `anchored_answers`: **an anchored rule blocks every URL that starts with its literal if it has a
  sure start, and without one all is answered as if the rule were not there**.
-/

namespace RequestFilter

/-! ## 1. The rule -/

/-- The pattern of an anchored literal. -/
theorem Rule.compile_anchored {b : Text} {kind : RuleKind} {c : CompiledRule}
    (hb : Glob.IsLiteral b) (h : (⟨b, ['^'], kind⟩ : Rule).compile = .ok c) :
    c.pattern = ⟨.concat (.look .textStart :: b.map Glob.meaning), '^' :: b, some kind.tag⟩ ∧
      c.placement = .signatures := by
  obtain ⟨hlit, hsplit⟩ := takenApart_of_signFree hb.signFree kind
  obtain ⟨hparse, hraw, hoptions, hplace⟩ := compile_glob hlit hsplit h
  have htext : Glob.transliterate ['^'] b = '^' :: b := by
    rw [Glob.transliterate_of_starless (by decide) hb.starless,
      Glob.flatMap_image_of_copied hb.copied]
    rfl
  have hmeaning := Regex.parse?_anchored hb.signFree
  rw [Glob.flatMap_image_of_copied hb.copied] at hmeaning
  simp only [htext] at hparse hraw
  rw [hraw] at hplace
  refine ⟨?_, hplace⟩
  rw [← hoptions, ← Option.some.inj (hparse.symm.trans hmeaning), ← hraw]

namespace RuleIndex

/-! ## 2. What it blocks -/

/-- There is a sure way to an anchored rule that was indexed: it got a key of the pattern map, or a
    window behind the anchor. -/
def SureStart (I : RuleIndex) (b : Text) (full : Bool) : Prop :=
  full = true ∨ ∃ w ∈ CompiledRule.freeWindows I ('^' :: b), '^' ∉ w

instance (I : RuleIndex) (b : Text) (full : Bool) : Decidable (I.SureStart b full) :=
  inferInstanceAs (Decidable (_ ∨ _))

section Anchored

variable {I J : RuleIndex} {b : Text} {c : CompiledRule}

/-- A URL leads to the rule by a window without the anchor, or because it got a key. -/
theorem leadsTo_anchored_iff (hraw : c.pattern.raw = '^' :: b) (hplace : c.placement = .signatures)
    (hI : WellFormed I) (h : I.Filed J c.pattern (c.signaturesIn I) (c.keyIn I)) (url : Text) :
    J.LeadsTo url I.patterns.size ↔ (c.keyIn I).isSome = true ∨
      ∃ w ∈ CompiledRule.freeWindows I ('^' :: b), '^' ∉ w ∧
        w ∈ Signature.windows (Glob.normalizeUrl url) := by
  have hanchor : ∀ w ∈ Signature.windows (Glob.normalizeUrl url), '^' ∉ w := fun w hw hm =>
    Glob.caret_notMem_normalizeUrl url ((Signature.mem_windows.mp hw).1.subset hm)
  rw [CompiledRule.leadsTo_iff h hI]
  simp only [CompiledRule.signaturesIn, hplace, hraw]
  refine or_congr_right ⟨?_, ?_⟩
  · intro hx
    obtain ⟨w, hw, hurl⟩ := hx
    exact ⟨w, hw, hanchor w hurl, hurl⟩
  · intro hx
    obtain ⟨w, hw, -, hurl⟩ := hx
    exact ⟨w, hw, hurl⟩

/-- A window behind the anchor is a window of every URL that starts with the literal. -/
theorem mem_windows_of_start (hb : Glob.IsLiteral b) {w url : Text}
    (hw : w ∈ Signature.windows ('^' :: b)) (hanchor : '^' ∉ w) (hurl : b <+: url) :
    w ∈ Signature.windows (Glob.normalizeUrl url) := by
  obtain ⟨hin, hsize⟩ := Signature.mem_windows.mp hw
  have hbehind : w <:+: b := by
    rcases List.infix_cons_iff.mp hin with hpre | hin
    · obtain ⟨d, v, rfl⟩ := List.exists_cons_of_ne_nil (Signature.ne_nil_of_mem_windows hw)
      have hd : d = '^' := (List.cons_prefix_cons.mp hpre).1
      exact absurd (hd ▸ List.mem_cons_self) hanchor
    · exact hin
  exact Signature.mem_windows.mpr
    ⟨hbehind.trans (Glob.infix_normalizeUrl hb.copied hurl.isInfix), hsize⟩

/-- **An anchored rule that was indexed blocks every URL that starts with its literal if there is a
    sure way to it.** Without one every request is answered as if the rule were not there: it may
    still be blocked, but by another rule. -/
theorem anchored_answers {id : PatternId} {n : Nat} {full : Bool} (hI : Reachable I)
    (hb : Glob.IsLiteral b)
    (hindexed : I.compileRule ⟨b, ['^'], .fullUri⟩ = .ok (.indexed id n full, J)) :
    (I.SureStart b full → ∀ r : Request, r.type ≠ .document → b <+: r.url → J.Answers r true) ∧
    (¬ I.SureStart b full → ∀ (r : Request) (blocked : Bool),
      J.Answers r blocked ↔ I.Answers r blocked) := by
  obtain ⟨c, hc, rfl, rfl, hfiled⟩ := compileRule_indexed hindexed
  obtain ⟨hpattern, hplace⟩ := Rule.compile_anchored hb hc
  have hlead := leadsTo_anchored_iff (by rw [hpattern]) hplace hI.wellFormed hfiled
  refine ⟨fun hway r hdoc hurl => ?_, fun hway r blocked => ?_⟩
  · have hway : J.LeadsTo r.url I.patterns.size := by
      refine (hlead r.url).mpr (hway.imp_right ?_)
      intro hx
      obtain ⟨w, hw, hanchor⟩ := hx
      exact ⟨w, hw, hanchor, mem_windows_of_start hb (mem_freeWindows.mp hw).1.1 hanchor hurl⟩
    have hmatch : c.pattern.matchesIn r.url = true := by
      rw [hpattern]
      exact Regex.matchesIn_of_covers_start (Glob.covers_self hb.starless) hurl
    have hflags : c.pattern.isThirdParty = false := by
      rw [hpattern]
      exact PatternFlags.thirdParty_joinOptions .fullUri none
    exact answers_true_iff.mpr
      (hfiled.stops hway hmatch (Or.inr hflags) (hb.ne_nil_of_infix hurl.isInfix) hdoc)
  · have hdead : ¬ J.LeadsTo r.url I.patterns.size := by
      intro h
      refine hway (((hlead r.url).mp h).imp_right ?_)
      intro hx
      obtain ⟨w, hw, hanchor, -⟩ := hx
      exact ⟨w, hw, hanchor⟩
    exact answers_congr (hfiled.stops_iff hI.wellFormed hdead) blocked

/-- A rule with a window behind its anchor, and one without. -/
theorem anchored_answers_both :
    (∃ J, ({} : RuleIndex).compileRule ⟨"http://ads.".toList, ['^'], .fullUri⟩ =
        .ok (.indexed 0 5 false, J) ∧
      J.Answers ⟨"http://ads.example/".toList, none, .script⟩ true) ∧
    ∃ J, ({} : RuleIndex).compileRule ⟨"http://".toList, ['^'], .fullUri⟩ =
        .ok (.indexed 0 1 false, J) ∧
      ∀ (r : Request) (blocked : Bool), J.Answers r blocked ↔ RuleIndex.Answers {} r blocked := by
  constructor
  · obtain ⟨J, hJ⟩ := exists_compileRule (show (({} : RuleIndex).compileRule
      ⟨"http://ads.".toList, ['^'], .fullUri⟩).toOption.map Prod.fst =
        some (.indexed 0 5 false) by decide +kernel)
    have hb : Glob.IsLiteral "http://ads.".toList :=
      ⟨by decide, Glob.signFree_of_any (by decide), by decide⟩
    exact ⟨J, hJ, (anchored_answers .refl hb hJ).1 (by decide +kernel) _ (by decide)
      ⟨"example/".toList, by decide⟩⟩
  · obtain ⟨J, hJ⟩ := exists_compileRule (show (({} : RuleIndex).compileRule
      ⟨"http://".toList, ['^'], .fullUri⟩).toOption.map Prod.fst =
        some (.indexed 0 1 false) by decide +kernel)
    have hb : Glob.IsLiteral "http://".toList :=
      ⟨by decide, Glob.signFree_of_any (by decide), by decide⟩
    exact ⟨J, hJ, (anchored_answers .refl hb hJ).2 (by decide +kernel)⟩

/-- The rule `|http://` is indexed, and a URL that starts with `http://` passes. -/
theorem anchored_lost : ∃ J, ({} : RuleIndex).compileRule ⟨"http://".toList, ['^'], .fullUri⟩ =
      .ok (.indexed 0 1 false, J) ∧
    "http://".toList <+: "http://ads.example/".toList ∧
    J.Answers ⟨"http://ads.example/".toList, none, .script⟩ false := by
  obtain ⟨J, hJ⟩ := exists_compileRule (show (({} : RuleIndex).compileRule
    ⟨"http://".toList, ['^'], .fullUri⟩).toOption.map Prod.fst = some (.indexed 0 1 false) by
      decide +kernel)
  have hquery : (({} : RuleIndex).compileRule ⟨"http://".toList, ['^'], .fullUri⟩).toOption.map
      (fun result => (Matcher.query result.2 {}
        ⟨"http://ads.example/".toList, none, .script⟩).1.blocked) = some false := by
    decide +kernel
  rw [hJ] at hquery
  exact ⟨J, hJ, ⟨"ads.example/".toList, by decide⟩,
    answers_iff_query.mpr (Option.some.inj hquery)⟩

end Anchored

end RuleIndex

end RequestFilter
