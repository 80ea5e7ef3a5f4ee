import RequestFilter.Proofs.GlobMatching
import RequestFilter.Proofs.GlobRules
import RequestFilter.Proofs.Growth
import RequestFilter.Proofs.Search

/-!
# Wildcard rules

A rule with a wildcard between other characters asks for the windows of its transliterated text.
Some of them end in the dot of a `.*`, which no URL has to have at that place.

* `Glob.core`: the glob without the wildcards that are dropped at its ends;
  `transliterate_of_signFree`: transliteration spells out the core, and
  `inOrder_core`: the core asks for no more than the glob;
* `RuleIndex.SureWay`: the rule got a key, or a window that lies in a piece between two wildcards;
* `wildcard_answers`: **a wildcard rule blocks every URL with its pieces in order if it has a sure
  way**, and without one there is a URL that the pattern matches and that is answered as if the rule
  were not there. The rule for `aaaaaaa*b` is of this kind: its windows are `aaaaaaa.` alone.
-/

namespace RequestFilter

namespace Glob

/-! ## 1. The core of a glob -/

/-- A text without the one `*` it may end with. -/
def dropTrailingStar (t : Text) : Text :=
  match t.reverse with
  | '*' :: rest => rest.reverse
  | _ => t

/-- A glob without the one `*` it may start with and the one it may end with. -/
def core (glob : Text) : Text := dropTrailingStar (dropLeadingStar glob)

theorem dropTrailingStar_concat_star (t : Text) : dropTrailingStar (t ++ ['*']) = t := by
  simp [dropTrailingStar]

theorem dropTrailingStar_concat (t : Text) {c : Char} (h : c ≠ '*') :
    dropTrailingStar (t ++ [c]) = t ++ [c] := by
  unfold dropTrailingStar
  split
  · rename_i rest hrest
    simp only [List.reverse_append, List.reverse_cons, List.reverse_nil, List.nil_append,
      List.singleton_append, List.cons.injEq] at hrest
    exact absurd hrest.1 h
  · rfl

/-- A text is its own, or a star stands behind what is left of it. -/
theorem dropTrailingStar_cases (t : Text) :
    dropTrailingStar t = t ∨ t = dropTrailingStar t ++ ['*'] := by
  rcases List.eq_nil_or_concat t with rfl | ⟨s, c, rfl⟩
  · exact Or.inl rfl
  · rw [List.concat_eq_append]
    by_cases hc : c = '*'
    · subst hc
      rw [dropTrailingStar_concat_star]
      exact Or.inr rfl
    · exact Or.inl (dropTrailingStar_concat s hc)

theorem dropLeadingStar_cases (t : Text) :
    dropLeadingStar t = t ∨ t = '*' :: dropLeadingStar t := by
  unfold dropLeadingStar
  split
  · exact Or.inr rfl
  · exact Or.inl rfl

theorem infix_core (glob : Text) : core glob <:+: glob := by
  have htrailing : core glob <:+: dropLeadingStar glob := by
    unfold core
    rcases dropTrailingStar_cases (dropLeadingStar glob) with h | h
    · exact h.symm ▸ List.infix_refl _
    · exact ⟨[], ['*'], h.symm⟩
  refine htrailing.trans ?_
  rcases dropLeadingStar_cases glob with h | h
  · exact h.symm ▸ List.infix_refl _
  · exact ⟨['*'], [], by rw [List.append_nil]; exact h.symm⟩

/-- **Transliteration spells out the core of a glob without signs.** -/
theorem transliterate_of_signFree {glob : Text} (h : SignFree glob) :
    transliterate [] glob = (core glob).flatMap image := by
  have hlead : SignFree (dropLeadingStar glob) := by
    rcases dropLeadingStar_cases glob with heq | heq
    · rwa [heq]
    · rw [heq] at h
      exact h.tail
  rw [transliterate, List.nil_append, core]
  rcases List.eq_nil_or_concat (dropLeadingStar glob) with hnil | ⟨s, c, hc⟩
  · rw [hnil]
    rfl
  · rw [List.concat_eq_append] at hc
    rw [hc] at hlead ⊢
    rw [List.flatMap_append, List.flatMap_singleton]
    by_cases hstar : c = '*'
    · subst hstar
      rw [dropTrailingStar_concat_star]
      exact dropTrailingWildcard_append _
    · rw [image_of_not_sign (hlead c (by simp)) hstar, dropTrailingWildcard_concat _ hstar,
        dropTrailingStar_concat s hstar, List.flatMap_append, List.flatMap_singleton,
        image_of_not_sign (hlead c (by simp)) hstar]

/-- Where the pieces of a glob stand in order, so do those of its core. -/
theorem inOrder_core {glob t : Text} (h : Text.InOrder (Text.splitOn '*' glob) t) :
    Text.InOrder (Text.splitOn '*' (core glob)) t := by
  have hlead : Text.InOrder (Text.splitOn '*' (dropLeadingStar glob)) t := by
    rcases dropLeadingStar_cases glob with heq | heq
    · rwa [heq]
    · rw [heq, Text.splitOn_sep] at h
      exact Text.inOrder_nil_cons h
  rw [core]
  rcases dropTrailingStar_cases (dropLeadingStar glob) with heq | heq
  · rwa [heq]
  · rw [heq, Text.splitOn_append_sep] at hlead
    exact Text.inOrder_of_append hlead

/-! ## 2. Pieces apart -/

/-- The pieces of a glob, with a sign between them that no glob without signs has in it. -/
def apart (glob : Text) : Text := Text.join ['('] (Text.splitOn '*' glob)

/-- A character of the pieces is one of the glob. -/
theorem mem_apart {glob : Text} {c : Char} (h : c ∈ apart glob) : c = '(' ∨ c ∈ glob ∧ c ≠ '*' := by
  refine (Text.mem_join h).imp_right fun ⟨piece, hp, hc⟩ => ?_
  exact ⟨(Text.infix_of_mem_splitOn hp).subset hc,
    fun e => Text.notMem_of_mem_splitOn hp (e ▸ hc)⟩

theorem copied_apart {glob : Text} (h : SignFree glob) : Copied (apart glob) := by
  intro c hc
  rcases mem_apart hc with rfl | ⟨hmem, hstar⟩
  · rfl
  · exact image_of_not_sign (h c hmem) hstar

/-- A window of the transliterated glob that is one of the pieces apart lies in a piece. -/
theorem infix_of_mem_windows_apart {glob w : Text} (h : SignFree glob)
    (hraw : w ∈ Signature.windows (transliterate [] glob))
    (hurl : w ∈ Signature.windows (normalizeUrl (apart glob))) :
    ∃ piece ∈ Text.splitOn '*' glob, w <:+: piece := by
  have hsep : '(' ∉ w := by
    intro hm
    have hmem := (Signature.mem_windows.mp hraw).1.subset hm
    rw [transliterate_of_signFree h] at hmem
    have hcore : SignFree (core glob) := h.of_infix (infix_core glob)
    rcases mem_flatMap_image hcore hmem with hc | hc
    · exact hcore.notMem (by decide) hc
    · cases hc
  rw [normalizeUrl_of_copied (copied_apart h)] at hurl
  exact Text.infix_of_infix_join (Signature.ne_nil_of_mem_windows hurl) hsep
    (Signature.mem_windows.mp hurl).1

end Glob

namespace RuleIndex

/-! ## 3. What it blocks -/

/-- There is a sure way to a rule with this body that was indexed: it got a key of the pattern map,
    or a window that lies between two wildcards. -/
def SureWay (I : RuleIndex) (body : Text) (full : Bool) : Prop :=
  full = true ∨ ∃ w ∈ CompiledRule.freeWindows I (Glob.transliterate [] body),
    ∃ piece ∈ Text.splitOn '*' body, w <:+: piece

instance (I : RuleIndex) (body : Text) (full : Bool) : Decidable (I.SureWay body full) :=
  inferInstanceAs (Decidable (_ ∨ _))

/-- The compiled rule stands for a glob without signs. -/
structure StandsFor (c : CompiledRule) (body : Text) : Prop where
  regex : c.pattern.regex = .concat ((Glob.core body).map Glob.meaning)
  raw : c.pattern.raw = Glob.transliterate [] body
  everyPage : c.pattern.isThirdParty = false
  placement : c.placement = .regexText ∨ c.placement = .signatures

section Wildcard

variable {I J : RuleIndex} {body : Text} {kind : RuleKind} {c : CompiledRule}

theorem standsFor_of_compile (hbody : Glob.SignFree body)
    (h : (⟨body, [], kind⟩ : Rule).compile = .ok c) : StandsFor c body := by
  obtain ⟨hlit, hsplit⟩ := Rule.takenApart_of_signFree hbody kind
  obtain ⟨hparse, hraw, hoptions, hplace⟩ := Rule.compile_glob hlit hsplit h
  have hmeaning := Regex.parse?_glob (hbody.of_infix (Glob.infix_core body))
  rw [← Glob.transliterate_of_signFree hbody] at hmeaning
  refine ⟨Option.some.inj (hparse.symm.trans hmeaning), hraw, ?_, ?_⟩
  · rw [Pattern.isThirdParty, Pattern.flags, hoptions]
    exact PatternFlags.thirdParty_joinOptions kind none
  · split at hplace
    · exact Or.inl hplace
    · exact Or.inr hplace

/-- The pattern matches where the pieces stand in order on one line. -/
theorem StandsFor.matchesIn (hc : StandsFor c body) {url : Text} (hline : '\n' ∉ url)
    (hurl : Text.InOrder (Text.splitOn '*' body) url) : c.pattern.matchesIn url = true := by
  obtain ⟨mid, hmid, hcov⟩ := Glob.exists_covers_of_inOrder hline (Glob.inOrder_core hurl)
  rw [Pattern.matchesIn, hc.regex]
  exact Regex.matchesIn_of_covers hcov hmid

/-- A URL leads to the rule by a free window of its text, or because it got a key. -/
theorem StandsFor.leadsTo_iff (hc : StandsFor c body) (hI : WellFormed I)
    (h : I.Filed J c.pattern (c.signaturesIn I) (c.keyIn I)) {url : Text} :
    J.LeadsTo url I.patterns.size ↔ (c.keyIn I).isSome = true ∨
      ∃ w ∈ CompiledRule.freeWindows I (Glob.transliterate [] body),
        w ∈ Signature.windows (Glob.normalizeUrl url) := by
  rw [CompiledRule.leadsTo_iff h hI]
  rcases hc.placement with hplace | hplace
  · simp [CompiledRule.keyIn, hplace]
  · simp only [CompiledRule.signaturesIn, hplace, hc.raw]

/-- A window in a piece is a window of every URL with the pieces in order. -/
theorem StandsFor.leadsTo_of_sureWay (hc : StandsFor c body) (hI : WellFormed I)
    (hbody : Glob.SignFree body) (h : I.Filed J c.pattern (c.signaturesIn I) (c.keyIn I))
    (hway : I.SureWay body (c.keyIn I).isSome) {url : Text}
    (hurl : Text.InOrder (Text.splitOn '*' body) url) : J.LeadsTo url I.patterns.size := by
  refine (hc.leadsTo_iff hI h).mpr (hway.imp_right ?_)
  intro hx
  obtain ⟨w, hw, piece, hpiece, hin⟩ := hx
  have hcopied : Glob.Copied piece :=
    (hbody.of_infix (Text.infix_of_mem_splitOn hpiece)).copied (Text.notMem_of_mem_splitOn hpiece)
  have hfound : piece <:+: Glob.normalizeUrl url :=
    Glob.infix_normalizeUrl hcopied (Text.infix_of_inOrder hurl hpiece)
  have hsize := (Signature.mem_windows.mp (mem_freeWindows.mp hw).1.1).2
  exact ⟨w, hw, Signature.mem_windows.mpr ⟨hin.trans hfound, hsize⟩⟩

/-- Without a sure way nothing leads from the pieces apart to the rule. -/
theorem StandsFor.not_leadsTo_apart (hc : StandsFor c body) (hI : WellFormed I)
    (hbody : Glob.SignFree body) (h : I.Filed J c.pattern (c.signaturesIn I) (c.keyIn I))
    (hway : ¬ I.SureWay body (c.keyIn I).isSome) :
    ¬ J.LeadsTo (Glob.apart body) I.patterns.size := by
  intro hlead
  refine hway (((hc.leadsTo_iff hI h).mp hlead).imp_right ?_)
  intro hx
  obtain ⟨w, hw, hurl⟩ := hx
  exact ⟨w, hw, Glob.infix_of_mem_windows_apart hbody (mem_freeWindows.mp hw).1.1 hurl⟩

/-- **A wildcard rule that was indexed blocks every URL with its pieces in order if there is a sure
    way to it.** Without one there is such a URL that the pattern matches, and every request for it
    is answered as if the rule were not there: it may still be blocked, but by another rule. Only
    URLs on one line are in question, so a body with a line break in it has no such URL. -/
theorem wildcard_answers {id : PatternId} {n : Nat} {full : Bool} (hI : Reachable I)
    (hbody : Glob.SignFree body) (hother : ∃ d ∈ body, d ≠ '*')
    (hindexed : I.compileRule ⟨body, [], kind⟩ = .ok (.indexed id n full, J)) :
    (I.SureWay body full → ∀ r : Request, '\n' ∉ r.url → r.type ≠ .document →
      Text.InOrder (Text.splitOn '*' body) r.url → J.Answers r true) ∧
    (¬ I.SureWay body full → '\n' ∉ body → ∃ url, '\n' ∉ url ∧
      Text.InOrder (Text.splitOn '*' body) url ∧
      (∃ p, J.pattern id = some p ∧ p.matchesIn url = true) ∧
      ∀ r : Request, r.url = url → ∀ blocked, J.Answers r blocked ↔ I.Answers r blocked) := by
  obtain ⟨c, hcompile, rfl, rfl, hfiled⟩ := compileRule_indexed hindexed
  have hc := standsFor_of_compile hbody hcompile
  refine ⟨fun hway r hline hdoc hurl => ?_, fun hway hline => ?_⟩
  · have hne : r.url ≠ [] := by
      obtain ⟨d, hd, hstar⟩ := hother
      obtain ⟨piece, hpiece, hmem⟩ := Text.exists_mem_splitOn hd hstar
      exact List.ne_nil_of_mem ((Text.infix_of_inOrder hurl hpiece).subset hmem)
    have hlead := hc.leadsTo_of_sureWay hI.wellFormed hbody hfiled hway hurl
    exact answers_true_iff.mpr
      (hfiled.stops hlead (hc.matchesIn hline hurl) (Or.inr hc.everyPage) hne hdoc)
  · have hapart : '\n' ∉ Glob.apart body := fun hm => by
      rcases Glob.mem_apart hm with h | ⟨h, -⟩
      · cases h
      · exact hline h
    have horder : Text.InOrder (Text.splitOn '*' body) (Glob.apart body) := Text.inOrder_join _ _
    have hlead := hc.not_leadsTo_apart hI.wellFormed hbody hfiled hway
    refine ⟨Glob.apart body, hapart, horder,
      ⟨c.pattern, hfiled.pattern_self, hc.matchesIn hapart horder⟩, ?_⟩
    intro r hr blocked
    rw [← hr] at hlead
    exact answers_congr (hfiled.stops_iff hI.wellFormed hlead) blocked

/-- A rule with a sure way, and one without. -/
theorem wildcard_answers_both :
    (∃ J, ({} : RuleIndex).compileRule ⟨"banner/ads*.js".toList, [], .uri⟩ =
        .ok (.indexed 0 4 false, J) ∧
      J.Answers ⟨"http://x/banner/ads/1.js".toList, some "http://x/".toList, .script⟩ true) ∧
    ∃ J, ({} : RuleIndex).compileRule ⟨"aaaaaaa*b".toList, [], .uri⟩ =
        .ok (.indexed 0 1 false, J) ∧
      ∃ url, '\n' ∉ url ∧ Text.InOrder (Text.splitOn '*' "aaaaaaa*b".toList) url ∧
        (∃ p, J.pattern 0 = some p ∧ p.matchesIn url = true) ∧
        ∀ r : Request, r.url = url → ∀ blocked, J.Answers r blocked ↔
          RuleIndex.Answers {} r blocked := by
  constructor
  · obtain ⟨J, hJ⟩ := exists_compileRule (show (({} : RuleIndex).compileRule
      ⟨"banner/ads*.js".toList, [], .uri⟩).toOption.map Prod.fst = some (.indexed 0 4 false) by
        decide +kernel)
    have hsigns : Glob.SignFree "banner/ads*.js".toList := Glob.signFree_of_any (by decide)
    have hother : ∃ d ∈ "banner/ads*.js".toList, d ≠ '*' := ⟨'b', by decide, by decide⟩
    refine ⟨J, hJ, (wildcard_answers .refl hsigns hother hJ).1 (by decide +kernel) _
      (by decide) (by decide) ?_⟩
    exact ⟨"http://x/".toList, "/1.js".toList, by decide, "/1".toList, [], by decide, trivial⟩
  · obtain ⟨J, hJ⟩ := exists_compileRule (show (({} : RuleIndex).compileRule
      ⟨"aaaaaaa*b".toList, [], .uri⟩).toOption.map Prod.fst = some (.indexed 0 1 false) by
        decide +kernel)
    have hsigns : Glob.SignFree "aaaaaaa*b".toList := Glob.signFree_of_any (by decide)
    have hother : ∃ d ∈ "aaaaaaa*b".toList, d ≠ '*' := ⟨'b', by decide, by decide⟩
    exact ⟨J, hJ, (wildcard_answers .refl hsigns hother hJ).2 (by decide +kernel) (by decide)⟩

/-- The rule `aaaaaaa*b` is indexed, and a URL with `aaaaaaa` and `b` in it passes. -/
theorem wildcard_lost : ∃ J, ({} : RuleIndex).compileRule ⟨"aaaaaaa*b".toList, [], .uri⟩ =
      .ok (.indexed 0 1 false, J) ∧
    Text.InOrder (Text.splitOn '*' "aaaaaaa*b".toList) "http://x/aaaaaaaXb".toList ∧
    (J.pattern 0).map (·.matchesIn "http://x/aaaaaaaXb".toList) = some true ∧
    J.Answers ⟨"http://x/aaaaaaaXb".toList, none, .script⟩ false := by
  obtain ⟨J, hJ⟩ := exists_compileRule (show (({} : RuleIndex).compileRule
    ⟨"aaaaaaa*b".toList, [], .uri⟩).toOption.map Prod.fst = some (.indexed 0 1 false) by
      decide +kernel)
  have hmatch : (({} : RuleIndex).compileRule ⟨"aaaaaaa*b".toList, [], .uri⟩).toOption.map
      (fun result => (result.2.pattern 0).map (·.matchesIn "http://x/aaaaaaaXb".toList)) =
        some (some true) := by
    decide +kernel
  have hquery : (({} : RuleIndex).compileRule ⟨"aaaaaaa*b".toList, [], .uri⟩).toOption.map
      (fun result => (Matcher.query result.2 {}
        ⟨"http://x/aaaaaaaXb".toList, none, .script⟩).1.blocked) = some false := by
    decide +kernel
  rw [hJ] at hmatch hquery
  exact ⟨J, hJ, ⟨"http://x/".toList, "Xb".toList, by decide, "X".toList, [], by decide, trivial⟩,
    Option.some.inj hmatch, answers_iff_query.mpr (Option.some.inj hquery)⟩

end Wildcard

end RuleIndex

end RequestFilter
