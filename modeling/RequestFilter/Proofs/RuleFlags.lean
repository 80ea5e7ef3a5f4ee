import RequestFilter.Proofs.IdleLines

/-!
# Flags of a rule

The kind of a rule and the options that were written behind it are put into one text, and the flags
of its pattern are read from that text. So a flag that an option asks for is read as it was written,
however the options were cut off the line; but the word for an anchored rule may come from either.

* `Rule.writtenOptions`: the options on the line of a rule, in the pieces in which they were cut
  off; `Rule.Names`: one of their tokens is a word;
* `mentions_of_compile`: **what is among the options of a pattern is the word for the kind of its
  rule, or a token that was written**;
* `LineKind.kind_of_classify`: **the kind of a rule is whether its line was anchored**;
* `RuleIndex.flags_of_filed`: **the flags of a rule that is filed**; `anchor_by_option`: an option
  is taken for an anchor.
-/

namespace RequestFilter

/-! ## 1. Written options -/

namespace PatternFlags

variable {word : Text}

/-- The items of joined options are those of all of them. -/
theorem mentions_join (hword : word ≠ []) (pieces : List Text) :
    mentions (Text.join [','] pieces) word = pieces.any (mentions · word) := by
  induction pieces with
  | nil => exact mentions_nil hword
  | cons piece others ih =>
    cases others with
    | nil => simp [Text.join]
    | cons next rest =>
      have hjoin : Text.join [','] (piece :: next :: rest) =
          piece ++ ',' :: Text.join [','] (next :: rest) := by simp [Text.join]
      rw [hjoin, mentions_append_comma, ih]
      rfl

theorem mentions_iff {options : Text} : mentions options word = true ↔
    ∃ token ∈ Text.splitOn ',' options, (Text.trim token).equalsIgnoringCase word = true := by
  simp only [mentions, items, List.any_map, List.any_eq_true, Function.comp_apply]

end PatternFlags

namespace Rule

/-- The options of a glob, in the pieces in which they are cut off: what is behind the dollar, or,
    if there are several, what is behind the second one and each later one. -/
def globOptions (line : Text) : List Text :=
  match Text.splitOn '$' line with
  | [_, options] => [options]
  | pieces => pieces.drop 2

/-- The options on the line of a rule: those of a glob, and of a regular expression what is behind
    its last slash and dollar. -/
def writtenOptions (r : Rule) : List Text :=
  match if r.kind = .uri then regexLiteral? r.body else none with
  | some (_, options) => options.toList
  | none => globOptions r.body

/-- Among the options on the line of a rule, taken apart at the commas and trimmed, is the word, in
    any case of its ASCII letters. -/
def Names (r : Rule) (word : Text) : Prop :=
  ∃ options ∈ r.writtenOptions, ∃ token ∈ Text.splitOn ',' options,
    (Text.trim token).equalsIgnoringCase word = true

variable {r : Rule} {word : Text}

theorem names_iff : r.Names word ↔ r.writtenOptions.any (PatternFlags.mentions · word) = true := by
  simp only [Names, List.any_eq_true, PatternFlags.mentions_iff]

/-- What is among the options of a glob. -/
theorem mentions_splitOptions (hword : word ≠ []) (line : Text) (kind : RuleKind) :
    PatternFlags.mentions (splitOptions line kind).2 word =
      (PatternFlags.mentions kind.tag word ||
        (globOptions line).any (PatternFlags.mentions · word)) := by
  unfold splitOptions globOptions
  split
  · rename_i hsplit
    simp [hsplit]
  · rename_i pattern hsplit
    simp [hsplit]
  · rename_i pattern options hsplit
    simp [hsplit, PatternFlags.mentions_joinOptions kind _ hword]
  · rename_i first second rest hmore hsplit
    obtain ⟨third, rest, rfl⟩ := List.exists_cons_of_ne_nil hmore
    simp only [hsplit, PatternFlags.mentions_joinOptions kind _ hword, Option.any_some,
      PatternFlags.mentions_join hword, List.drop_succ_cons, List.drop_zero]

/-- **What is among the options of a pattern is the word for the kind of its rule, or a token that
    was written.** -/
theorem mentions_of_compile {c : CompiledRule} (h : r.compile = .ok c) {o : Text}
    (ho : c.pattern.options = some o) (hword : word ≠ []) :
    PatternFlags.mentions o word = true ↔
      PatternFlags.mentions r.kind.tag word = true ∨ r.Names word := by
  rw [names_iff, ← Bool.or_eq_true, writtenOptions]
  cases hlit : if r.kind = .uri then regexLiteral? r.body else none with
  | some literal =>
    obtain ⟨body, options⟩ := literal
    rw [compile, hlit] at h
    obtain ⟨hpattern, -⟩ := compileLiteral_eq_ok h
    obtain rfl := Option.some.inj (ho.symm.trans (compilePattern_eq_ok hpattern).2.2)
    rw [PatternFlags.mentions_joinOptions _ _ hword]
    cases options <;> simp
  | none =>
    rw [compile_eq_compileGlob fun hkind => by rwa [if_pos hkind] at hlit] at h
    obtain ⟨hpattern, -⟩ := compileGlob_eq_ok h
    obtain rfl := Option.some.inj (ho.symm.trans (compilePattern_eq_ok hpattern).2.2)
    rw [mentions_splitOptions hword]

end Rule

/-! ## 2. Anchors -/

/-- **The kind of a rule is whether its line was anchored.** -/
theorem LineKind.kind_of_classify {line : Text} {r : Rule} (h : classify line = .rule r) :
    r.kind = .fullUri ↔ line.head? = some '|' := by
  unfold classify at h
  repeat' split at h
  all_goals cases h
  · simp
  · simp
  · -- neither of the two anchors is there
    rename_i hone
    cases line with
    | nil => simp
    | cons c line =>
      have hc : c ≠ '|' := fun hc => hone line (by rw [hc])
      simp [hc]

/-! ## 3. Flags -/

namespace RuleIndex

variable {I J : RuleIndex} {line : Text} {r : Rule} {id : PatternId} {n : Nat} {full : Bool}

/-- **The flags of a rule that is filed.** Let the rule of any line be filed in any index. Its
    pattern is one for anchored rules exactly if the line was anchored or names such a rule among
    its options, and one for third parties exactly if the line names these among its options. -/
theorem flags_of_filed (hline : LineKind.classify line = .rule r)
    (h : I.compileRule r = .ok (.indexed id n full, J)) :
    ∃ p, J.pattern id = some p ∧
      (p.flags.fullUri = true ↔ line.head? = some '|' ∨ r.Names "fulluri".toList) ∧
      (p.flags.thirdParty = true ↔ r.Names "third-party".toList) := by
  obtain ⟨c, hcompile, rfl, -, hfiled⟩ := compileRule_indexed h
  obtain ⟨o, ho, -⟩ := Rule.options_of_compile hcompile
  have hflags : c.pattern.flags = .ofOptions o := by simp [Pattern.flags, ho]
  have hanchor : PatternFlags.mentions r.kind.tag "fulluri".toList = true ↔
      line.head? = some '|' := by
    rw [← LineKind.kind_of_classify hline]
    cases r.kind <;> decide
  have hparties : PatternFlags.mentions r.kind.tag "third-party".toList = false := by
    cases r.kind <;> decide
  refine ⟨c.pattern, hfiled.pattern_self, ?_, ?_⟩
  · rw [hflags, ← hanchor]
    exact Rule.mentions_of_compile hcompile ho (by decide)
  · have hword : "third-party".toList ≠ [] := by decide
    have hmentions := Rule.mentions_of_compile hcompile ho hword
    rw [hparties] at hmentions
    rw [hflags]
    exact hmentions.trans (or_iff_right Bool.false_ne_true)

/-- The rule of an anchored line with two dollars, the second of which has options behind it. -/
def twoDollars : Rule := ⟨"ads$x$script, Third-Party".toList, [], .fullUri⟩

/-- Both flags are set, one for the anchor and one for an option. -/
theorem flags_of_filed_two_dollars :
    LineKind.classify "||ads$x$script, Third-Party".toList = .rule twoDollars ∧
      ∃ J p, ({} : RuleIndex).compileRule twoDollars = .ok (.indexed 0 0 true, J) ∧
        J.pattern 0 = some p ∧ p.raw = "adsx".toList ∧ p.flags = ⟨true, true⟩ := by
  have hline : LineKind.classify "||ads$x$script, Third-Party".toList = .rule twoDollars := by
    decide
  obtain ⟨⟨o, J⟩, hcompile, hvalues⟩ := exists_ok_of_map (show
    (({} : RuleIndex).compileRule twoDollars).toOption.map (fun result =>
      (result.1, (result.2.pattern 0).map Pattern.raw)) =
        some (.indexed 0 0 true, some "adsx".toList) by decide +kernel)
  obtain ⟨rfl, hraw⟩ := Prod.mk.inj hvalues
  obtain ⟨p, hp, hanchor, hparties⟩ := flags_of_filed hline hcompile
  simp only [hp, Option.map_some, Option.some.injEq] at hraw
  have hnames : twoDollars.Names "third-party".toList :=
    ⟨"script, Third-Party".toList, by decide, " Third-Party".toList, by decide, by decide⟩
  refine ⟨hline, J, p, hcompile, hp, hraw, ?_⟩
  rw [PatternFlags.mk.injEq]
  exact ⟨hanchor.mpr (.inl rfl), hparties.mpr hnames⟩

/-- An option can be taken for an anchor: the word for anchored rules stands among the options of a
    rule, and so does that word if it was written there. -/
theorem anchor_by_option : ¬ ∀ (I J : RuleIndex) (line : Text) (r : Rule) (id : PatternId) (n : Nat)
    (full : Bool) (p : Pattern), LineKind.classify line = .rule r →
      I.compileRule r = .ok (.indexed id n full, J) → J.pattern id = some p →
        (p.flags.fullUri = true ↔ line.head? = some '|') ∧
          (p.flags.thirdParty = true ↔ r.Names "third-party".toList) := by
  intro h
  obtain ⟨⟨o, J⟩, hcompile, hvalues⟩ := exists_ok_of_map (show
    (({} : RuleIndex).compileRule ⟨"adserver$fulluri".toList, [], .uri⟩).toOption.map (fun result =>
      (result.1, (result.2.pattern 0).map (·.flags.fullUri))) =
        some (.indexed 0 1 false, some true) by decide +kernel)
  obtain ⟨rfl, hflag⟩ := Prod.mk.inj hvalues
  obtain ⟨p, hp, hanchored⟩ := Option.map_eq_some_iff.mp hflag
  have hclaimed := h {} J "adserver$fulluri".toList _ 0 1 false p (by decide) hcompile hp
  exact absurd (hclaimed.1.mp hanchored) (by decide)

end RuleIndex

end RequestFilter
