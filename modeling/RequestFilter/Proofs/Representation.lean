import RequestFilter.Proofs.SharedKeys

/-!
# The shape of an index

What the three parts of an index have to do with each other, whatever the index went through.

* `RuleIndex.NoOrphan`: every pattern stands under a signature or a key; `Filed.noOrphan`: **a
  filing keeps this**, for a pattern is filed only where something is free;
* `NoOrphan.size_le`: so there are no more patterns than entries;
* `Pattern.IsLiteralLine`: a line is the expression of a pattern between slashes;
  `CompiledRule.key_cases`: the key of a rule is the text of its pattern or such a line;
* `RuleSet.changes_shape`: **every entry fits the pattern it leads to, and every pattern has one**.
-/

namespace RequestFilter

namespace RuleIndex

variable {I J : RuleIndex}

/-! ## 1. Patterns without an entry -/

/-- Every pattern stands under a signature or a key. -/
def NoOrphan (I : RuleIndex) : Prop :=
  ∀ id < I.patterns.size, (∃ w, I.signature w = some id) ∨ ∃ k, I.fullPattern k = some id

theorem noOrphan_empty : NoOrphan {} := fun _ h => absurd h (Nat.not_lt_zero _)

/-- The pattern that was filed got what was free, and the others keep what they have. -/
theorem Filed.noOrphan {p : Pattern} {signatures : List Text} {key : Option Text}
    (h : Filed I J p signatures key) (hI : NoOrphan I) : NoOrphan J := by
  intro id hid
  rw [h.patterns, Array.size_push] at hid
  rcases Nat.lt_succ_iff_lt_or_eq.mp hid with hold | rfl
  · rcases hI id hold with ⟨w, hw⟩ | ⟨k, hk⟩
    · exact Or.inl ⟨w, h.extends.signature w id hw⟩
    · exact Or.inr ⟨k, h.extends.fullPattern k id hk⟩
  · rcases h.free with ⟨w, hw, hnone⟩ | ⟨k, hk, hnone⟩
    · exact Or.inl ⟨w, by rw [h.signature, hnone, Option.none_or, if_pos hw]⟩
    · exact Or.inr ⟨k, by rw [h.fullPattern, hnone, Option.none_or, if_pos hk]⟩

theorem noOrphan_of_compileRule {r : Rule} {o : Outcome} (hI : NoOrphan I)
    (h : I.compileRule r = .ok (o, J)) : NoOrphan J := by
  obtain ⟨c, -, ⟨-, hfiled⟩ | ⟨-, rfl⟩⟩ := compileRule_cases h
  · exact hfiled.noOrphan hI
  · exact hI

/-- **In a reachable index every pattern has an entry.** -/
theorem Reachable.noOrphan (h : Reachable I) : NoOrphan I :=
  Grows.preserves noOrphan_of_compileRule h noOrphan_empty

/-- Different patterns have different entries, so there are no more patterns than entries. -/
theorem NoOrphan.size_le (h : NoOrphan I) :
    I.patterns.size ≤ I.signatures.size + I.fullPatterns.size := by
  have hentries : List.range I.patterns.size ⊆
      I.signatures.toList.map Prod.snd ++ I.fullPatternIds := by
    intro id hid
    rw [List.mem_append]
    rcases h id (List.mem_range.mp hid) with ⟨w, hw⟩ | hk
    · exact Or.inl (List.mem_map.mpr ⟨(w, id), TextMap.mem_toList.mpr hw, rfl⟩)
    · exact Or.inr (mem_fullPatternIds.mpr hk)
  have hlength := (List.nodup_range.subperm hentries).length_le
  simpa [fullPatternIds] using hlength

end RuleIndex

/-! ## 2. Slots and keys -/

/-- The line is the expression of the pattern between slashes, with options behind it or not. -/
def Pattern.IsLiteralLine (p : Pattern) (line : Text) : Prop :=
  ∃ options, Rule.regexLiteral? line = some (p.raw, options) ∧
    line = match options with
      | none => '/' :: p.raw ++ ['/']
      | some o => '/' :: p.raw ++ '/' :: '$' :: o

namespace CompiledRule

variable {c : CompiledRule}

theorem mem_slots {w : Text} (h : w ∈ c.slots) :
    w ∈ Signature.windows c.pattern.raw ∧ '*' ∉ w := by
  unfold slots at h
  split at h
  · cases h
  · cases h
  · simpa [plainWindows] using h

/-- **The key of a rule is the text of its pattern, or the line that it is the expression of.** -/
theorem key_cases {r : Rule} (h : r.compile = .ok c) :
    c.key = c.pattern.raw ∨ c.pattern.IsLiteralLine c.key := by
  obtain ⟨-, ⟨body, options, hliteral⟩ | ⟨glob, hglob⟩⟩ := Rule.compile_cases h
  · refine Or.inr ⟨options, ?_, ?_⟩
    · rw [hliteral.key, hliteral.raw, hliteral.written]
    · rw [hliteral.key, hliteral.raw, Rule.eq_of_regexLiteral? hliteral.written]
      cases options <;> rfl
  · exact Or.inl hglob.key

end CompiledRule

namespace RuleSet

/-! ## 3. Every history -/

/-- Changes lead from the empty index to a reachable one: what was there before a clearing does not
    count. -/
theorem reachable_changes (cs : List Change) :
    RuleIndex.Reachable (({} : RuleSet).changes cs).index := by
  induction cs using List.reverseRecOn with
  | nil => exact .refl
  | append_singleton cs last ih =>
    rw [changes_concat]
    cases last with
    | rule r => exact RuleIndex.Grows.trans ih (RuleIndex.grows_after _ r)
    | list maxLine text => exact .list ih maxLine text
    | clear => exact .refl

/-- **Every entry fits the pattern it leads to, and every pattern has one.** Whatever an index went
    through, exactly the positions of its patterns stand under a signature or a key, so that there
    are no more patterns than entries. A signature is eight bytes of the text of its pattern,
    without a wildcard in them; a key is that text, or the line that the pattern is the expression
    of; and the text of every pattern is a regular expression. -/
theorem changes_shape (cs : List Change) :
    let I := (({} : RuleSet).changes cs).index
    (∀ id, ((∃ w, I.signature w = some id) ∨ ∃ k, I.fullPattern k = some id) ↔
      id < I.stats.patterns) ∧
    I.stats.patterns ≤ I.stats.signatures + I.stats.fullPatterns ∧
    (∀ w id, I.signature w = some id → w.byteSize = 8 ∧ '*' ∉ w ∧
      ∃ p, I.pattern id = some p ∧ w ∈ Signature.windows p.raw) ∧
    (∀ k id, I.fullPattern k = some id →
      ∃ p, I.pattern id = some p ∧ (k = p.raw ∨ p.IsLiteralLine k)) ∧
    ∀ id p, I.pattern id = some p → Regex.compile p.raw = .ok p.regex := by
  intro I
  have hreachable := reachable_changes cs
  have hwellFormed := hreachable.wellFormed
  have hstems := hreachable.stemsFrom
  refine ⟨fun id => ⟨fun h => ?_, hreachable.noOrphan id⟩, hreachable.noOrphan.size_le,
    fun w id hw => ?_, fun k id hk => ?_, fun id p hp => ?_⟩
  · rcases h with ⟨w, hw⟩ | ⟨k, hk⟩
    · exact hwellFormed.signature w id hw
    · exact hwellFormed.fullPattern k id hk
  · obtain ⟨c, -, hp, hslot⟩ := hstems.signature w id hw
    obtain ⟨hwindow, hstar⟩ := CompiledRule.mem_slots hslot
    exact ⟨(Signature.mem_windows.mp hwindow).2, hstar, c.pattern, hp, hwindow⟩
  · obtain ⟨c, ⟨r, hr⟩, hp, rfl⟩ := hstems.fullPattern k id hk
    exact ⟨c.pattern, hp, CompiledRule.key_cases hr⟩
  · obtain ⟨c, ⟨r, hr⟩, rfl⟩ := hstems.pattern id p hp
    exact (Rule.compile_cases hr).1

/-- A list that is cleared away, and one with a glob and with a regular expression that has an
    option. -/
def mixedLists : List Change :=
  [.list 2000 "||old.net^\n".toList, .clear,
   .list 2000 "||tracker.net^\n/ban[0-9]/$image\n".toList]

/-- The glob is found under eight bytes of its text, the regular expression under its line. -/
theorem changes_shape_mixed :
    let I := (({} : RuleSet).changes mixedLists).index
    (I.signature "tracker.".toList = some 0 ∧ ∃ p, I.pattern 0 = some p ∧
      "tracker.".toList ∈ Signature.windows p.raw ∧ Regex.compile p.raw = .ok p.regex) ∧
    (I.fullPattern "/ban[0-9]/$image".toList = some 1 ∧ ∃ p, I.pattern 1 = some p ∧
      ("/ban[0-9]/$image".toList = p.raw ∨ p.IsLiteralLine "/ban[0-9]/$image".toList)) ∧
    1 < I.stats.patterns ∧ I.stats.patterns ≤ I.stats.signatures + I.stats.fullPatterns := by
  intro I
  obtain ⟨hentries, hsize, hsignature, hkey, hregex⟩ := changes_shape mixedLists
  have hglob : I.signature "tracker.".toList = some 0 := by decide +kernel
  have hliteral : I.fullPattern "/ban[0-9]/$image".toList = some 1 := by decide +kernel
  obtain ⟨-, -, p, hp, hwindow⟩ := hsignature _ _ hglob
  exact ⟨⟨hglob, p, hp, hwindow, hregex 0 p hp⟩, ⟨hliteral, hkey _ _ hliteral⟩,
    (hentries 1).mp (Or.inr ⟨_, hliteral⟩), hsize⟩

end RuleSet

end RequestFilter
