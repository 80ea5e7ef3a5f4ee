import Mathlib.Algebra.BigOperators.Group.Finset.Basic
import Mathlib.Algebra.Order.BigOperators.Group.Finset
import RequestFilter.Proofs.Growth

/-!
# Compiling a rule again

Where a rule goes depends on what is still free in the index. But compiling it leaves none of its
windows free, and what is taken stays taken: so the next time it asks for its key at most, and after
that for nothing.

* `CompiledRule.slots`, `CompiledRule.key`: everything a rule may be filed under;
* `CompiledRule.Covered`: the slots are taken, and so is the key of a rule that has none;
  `covered_of_place`: **so it is once the rule was compiled**;
* `CompiledRule.AsksAgain`: a wildcard stands in front of a window and the key is free;
  `place_of_asksAgain`, `place_of_not_asksAgain`: **a covered rule that asks again gets its key and
  nothing else, and any other is shadowed**;
* `RuleIndex.filings`: what a sequence of rules files; `filings_bounded`: **every rule is filed
  twice at most**, the second time under its key alone, and never again once it was shadowed.
-/

namespace RequestFilter

namespace RuleIndex

/-! ## 1. What is taken -/

theorem Extends.hasSignature {I J : RuleIndex} (h : Extends I J) {w : Text}
    (hw : I.hasSignature w = true) : J.hasSignature w = true := by
  rw [hasSignature_eq, Option.isSome_iff_exists] at hw ⊢
  obtain ⟨id, hid⟩ := hw
  exact ⟨id, h.signature w id hid⟩

theorem Extends.hasFullPattern {I J : RuleIndex} (h : Extends I J) {k : Text}
    (hk : I.hasFullPattern k = true) : J.hasFullPattern k = true := by
  rw [hasFullPattern_eq, Option.isSome_iff_exists] at hk ⊢
  obtain ⟨id, hid⟩ := hk
  exact ⟨id, h.fullPattern k id hid⟩

section Filed

variable {I J : RuleIndex} {p : Pattern} {signatures : List Text} {key : Option Text}

/-- What a pattern asks for is taken once it was filed. -/
theorem Filed.hasSignature (h : Filed I J p signatures key) {w : Text} (hw : w ∈ signatures) :
    J.hasSignature w = true := by
  rw [hasSignature_eq, h.signature, if_pos hw]
  cases I.signature w <;> rfl

theorem Filed.hasFullPattern (h : Filed I J p signatures key) {k : Text} (hk : key = some k) :
    J.hasFullPattern k = true := by
  rw [hasFullPattern_eq, h.fullPattern, if_pos hk]
  cases I.fullPattern k <;> rfl

/-- A pattern is refused only if everything it asks for is taken. -/
theorem insert_eq_none (h : I.insert p signatures key = none) :
    (∀ w ∈ signatures, I.hasSignature w = true) ∧ ∀ k ∈ key, I.hasFullPattern k = true := by
  unfold insert at h
  simp only at h
  split at h
  · rename_i htaken
    simp only [Bool.and_eq_true, List.isEmpty_iff, List.filter_eq_nil_iff,
      Option.isNone_iff_eq_none, Option.filter_eq_none_iff, Bool.not_eq_true',
      Bool.not_eq_false] at htaken
    exact htaken
  · cases h

end Filed

end RuleIndex

namespace CompiledRule

variable {c : CompiledRule} {I J : RuleIndex}

/-! ## 2. What a rule may be filed under -/

/-- The windows a rule may be filed under. -/
def slots (c : CompiledRule) : List Text :=
  match c.placement with
  | .literal _ | .regexText => []
  | .signatures => plainWindows c.pattern.raw

/-- The key a rule may be filed under. -/
def key (c : CompiledRule) : Text :=
  match c.placement with
  | .literal line => line
  | .regexText | .signatures => c.pattern.raw

theorem mem_signaturesIn {w : Text} :
    w ∈ c.signaturesIn I ↔ w ∈ c.slots ∧ I.hasSignature w = false := by
  unfold signaturesIn slots
  cases c.placement with
  | literal line => simp
  | regexText => simp
  | signatures => simp [freeWindows]

/-- A rule without slots asks for its key, or the key is taken. -/
theorem keyIn_of_slots_eq_nil (h : c.slots = []) :
    c.keyIn I = some c.key ∨ I.hasFullPattern c.key = true := by
  unfold keyIn key slots at *
  cases hplace : c.placement with
  | literal line => exact Or.inl rfl
  | regexText => exact Or.inl rfl
  | signatures =>
    simp only [hplace] at h ⊢
    cases hfull : I.hasFullPattern c.pattern.raw with
    | true => exact Or.inr rfl
    | false => simp [needsFullPattern_eq, hfull, h]

theorem eq_key_of_keyIn {k : Text} (h : c.keyIn I = some k) : k = c.key := by
  unfold keyIn at h
  unfold key
  cases hplace : c.placement with
  | signatures =>
    simp only [hplace, Option.ite_none_right_eq_some, Option.some.injEq] at h
    exact h.2.symm
  | _ => simpa [hplace, eq_comm] using h

/-! ## 3. Covered rules -/

/-- Every slot is taken, and a rule without slots has its key taken. -/
structure Covered (I : RuleIndex) (c : CompiledRule) : Prop where
  signature : ∀ w ∈ c.slots, I.hasSignature w = true
  fullPattern : c.slots = [] → I.hasFullPattern c.key = true

/-- The rule has slots, and a wildcard in front of a window, and its key is free. -/
def AsksAgain (I : RuleIndex) (c : CompiledRule) : Prop :=
  c.slots ≠ [] ∧ hasWildcardWindow c.pattern.raw = true ∧ I.hasFullPattern c.key = false

instance (I : RuleIndex) (c : CompiledRule) : Decidable (AsksAgain I c) :=
  inferInstanceAs (Decidable (_ ∧ _ ∧ _))

theorem Covered.of_extends (h : Covered I c) (hJ : I.Extends J) : Covered J c :=
  ⟨fun w hw => hJ.hasSignature (h.signature w hw),
   fun hnil => hJ.hasFullPattern (h.fullPattern hnil)⟩

/-- A key that is free was free before. -/
theorem AsksAgain.of_extends (h : AsksAgain J c) (hJ : I.Extends J) : AsksAgain I c := by
  refine ⟨h.1, h.2.1, Bool.eq_false_iff.mpr fun hfull => ?_⟩
  have hfree := h.2.2
  rw [hJ.hasFullPattern hfull] at hfree
  cases hfree

/-- **Once a rule was compiled everything it asked for is taken.** -/
theorem taken_of_place {o : Outcome} (h : c.place I = (o, J)) :
    (∀ w ∈ c.signaturesIn I, J.hasSignature w = true) ∧
      ∀ k ∈ c.keyIn I, J.hasFullPattern k = true := by
  rw [place_eq, fileUnder] at h
  split at h
  · rename_i id next hinsert
    obtain ⟨-, rfl⟩ := Prod.mk.inj h
    obtain ⟨-, hfiled⟩ := RuleIndex.insert_filed hinsert
    exact ⟨fun w hw => hfiled.hasSignature hw, fun k hk => hfiled.hasFullPattern hk⟩
  · rename_i hinsert
    obtain ⟨-, rfl⟩ := Prod.mk.inj h
    exact RuleIndex.insert_eq_none hinsert

/-- **Once a rule was compiled it is covered.** -/
theorem covered_of_place {o : Outcome} (h : c.place I = (o, J)) : Covered J c := by
  obtain ⟨hsignatures, hkey⟩ := taken_of_place h
  refine ⟨fun w hw => ?_, fun hnil => ?_⟩
  · cases htaken : I.hasSignature w with
    | true => exact (RuleIndex.extends_of_place h).hasSignature htaken
    | false => exact hsignatures w (mem_signaturesIn.mpr ⟨hw, htaken⟩)
  · rcases keyIn_of_slots_eq_nil (I := I) hnil with hk | htaken
    · exact hkey _ hk
    · exact (RuleIndex.extends_of_place h).hasFullPattern htaken

theorem Covered.signaturesIn_eq_nil (h : Covered I c) : c.signaturesIn I = [] := by
  refine List.eq_nil_iff_forall_not_mem.mpr fun w hw => ?_
  obtain ⟨hslot, hfree⟩ := mem_signaturesIn.mp hw
  rw [h.signature w hslot] at hfree
  cases hfree

/-- A covered rule asks for a free key exactly if it asks again. -/
theorem Covered.keyIn_free_iff (h : Covered I c) :
    c.keyIn I = some c.key ∧ I.hasFullPattern c.key = false ↔ AsksAgain I c := by
  by_cases hnil : c.slots = []
  · simp [AsksAgain, hnil, h.fullPattern hnil]
  cases hplace : c.placement with
  | literal line => simp [slots, hplace] at hnil
  | regexText => simp [slots, hplace] at hnil
  | signatures =>
    have hfree : freeWindows I c.pattern.raw = [] := by
      simpa [signaturesIn, hplace] using h.signaturesIn_eq_nil
    have hplain : (plainWindows c.pattern.raw).isEmpty = false := by
      simpa [slots, hplace] using hnil
    simp only [AsksAgain, keyIn, key, hplace, needsFullPattern_eq, hfree, hplain]
    simp [hnil, and_comm]

/-- **A covered rule that asks again gets its key and nothing else.** -/
theorem place_of_asksAgain (h : Covered I c) (hasks : AsksAgain I c) :
    ∃ J, c.place I = (.indexed I.patterns.size 0 true, J) ∧
      I.Filed J c.pattern [] (some c.key) := by
  obtain ⟨hkey, hfree⟩ := h.keyIn_free_iff.mpr hasks
  cases hresult : c.place I with
  | mk o J =>
    have hcases := place_cases hresult
    rw [h.signaturesIn_eq_nil, hkey] at hcases
    rcases hcases with ⟨rfl, hfiled⟩ | ⟨-, rfl⟩
    · exact ⟨J, rfl, hfiled⟩
    · have htaken := (taken_of_place hresult).2 c.key hkey
      rw [hfree] at htaken
      cases htaken

/-- **A covered rule that does not ask again is shadowed.** -/
theorem place_of_not_asksAgain (h : Covered I c) (hasks : ¬ AsksAgain I c) :
    c.place I = (.shadowed, I) := by
  cases hresult : c.place I with
  | mk o J =>
    rcases place_cases hresult with ⟨-, hfiled⟩ | ⟨rfl, rfl⟩
    · rcases hfiled.free with ⟨w, hw, -⟩ | ⟨k, hk, hnone⟩
      · rw [h.signaturesIn_eq_nil] at hw
        cases hw
      · obtain rfl := eq_key_of_keyIn hk
        refine absurd (h.keyIn_free_iff.mp ⟨hk, ?_⟩) hasks
        rw [RuleIndex.hasFullPattern_eq, hnone]
        rfl
    · rfl

theorem place_shadowed_iff (h : Covered I c) : c.place I = (.shadowed, I) ↔ ¬ AsksAgain I c := by
  refine ⟨fun hplace hasks => ?_, place_of_not_asksAgain h⟩
  obtain ⟨J, hJ, -⟩ := place_of_asksAgain h hasks
  rw [hplace] at hJ
  cases hJ

/-- **Compiled twice, a rule does not ask again.** -/
theorem not_asksAgain_of_place (h : Covered I c) {o : Outcome} (hplace : c.place I = (o, J)) :
    ¬ AsksAgain J c := by
  intro hasks
  have hbefore : AsksAgain I c := hasks.of_extends (RuleIndex.extends_of_place hplace)
  obtain ⟨K, hK, hfiled⟩ := place_of_asksAgain h hbefore
  obtain ⟨-, rfl⟩ := Prod.mk.inj (hplace.symm.trans hK)
  have hfree := hasks.2.2
  rw [hfiled.hasFullPattern rfl] at hfree
  cases hfree

/-- A rule that was shadowed does not ask again either. -/
theorem not_asksAgain_of_shadowed (hplace : c.place I = (.shadowed, J)) : ¬ AsksAgain J c := by
  obtain rfl : J = I := by
    rcases place_cases hplace with ⟨ho, -⟩ | ⟨-, hJ⟩
    · cases ho
    · exact hJ
  exact (place_shadowed_iff (covered_of_place hplace)).mp hplace

end CompiledRule

namespace RuleIndex

variable {I J K : RuleIndex} {r : Rule} {o : Outcome}

/-! ## 4. One rule in the course of a growing index -/

/-- However the index grows, the rule is shadowed. -/
def Spent (I : RuleIndex) (r : Rule) : Prop :=
  ∀ {J : RuleIndex}, I.Grows J → J.compileRule r = .ok (.shadowed, J)

/-- A rule that is covered and does not ask again is shadowed from then on. -/
theorem spent_of_covered {c : CompiledRule} (hc : r.compile = .ok c) (hcovered : c.Covered I)
    (hasks : ¬ c.AsksAgain I) : Spent I r := by
  intro J hJ
  have hshadowed := CompiledRule.place_of_not_asksAgain (hcovered.of_extends hJ.extends)
    fun h => hasks (h.of_extends hJ.extends)
  exact compileRule_eq_ok.mpr ⟨c, hc, hshadowed⟩

/-- **A rule that was shadowed is shadowed from then on.** -/
theorem spent_of_shadowed (h : I.compileRule r = .ok (.shadowed, J)) : Spent J r := by
  obtain ⟨c, hc, hplace⟩ := compileRule_eq_ok.mp h
  exact spent_of_covered hc (CompiledRule.covered_of_place hplace)
    (CompiledRule.not_asksAgain_of_shadowed hplace)

/-- **A rule that is filed again gets its key and nothing else, and that was the last time.** -/
theorem compile_again (h : I.compileRule r = .ok (o, J)) (hK : J.Grows K) {o' : Outcome}
    {L : RuleIndex} (hagain : K.compileRule r = .ok (o', L)) :
    (o' = .shadowed ∨ ∃ id, o' = .indexed id 0 true) ∧ Spent L r := by
  obtain ⟨c, hc, hplace⟩ := compileRule_eq_ok.mp h
  obtain ⟨c', hc', hplace'⟩ := compileRule_eq_ok.mp hagain
  obtain rfl := Except.ok.inj (hc.symm.trans hc')
  have hcovered : c.Covered K := (CompiledRule.covered_of_place hplace).of_extends hK.extends
  -- the first time took every slot, so that only the key can be left to ask for
  refine ⟨?_, spent_of_covered hc (CompiledRule.covered_of_place hplace')
    (CompiledRule.not_asksAgain_of_place hcovered hplace')⟩
  by_cases hasks : c.AsksAgain K
  · obtain ⟨L', hL, -⟩ := CompiledRule.place_of_asksAgain hcovered hasks
    obtain ⟨rfl, -⟩ := Prod.mk.inj (hplace'.symm.trans hL)
    exact Or.inr ⟨_, rfl⟩
  · have hshadowed := CompiledRule.place_of_not_asksAgain hcovered hasks
    exact Or.inl (Prod.mk.inj (hplace'.symm.trans hshadowed)).1

/-! ## 5. Sequences of rules -/

/-- The index behind a rule. An error leaves it alone. -/
def after (I : RuleIndex) (r : Rule) : RuleIndex :=
  match I.compileRule r with
  | .ok (_, J) => J
  | .error _ => I

/-- Compiles rules one after the other. -/
def compileAll (I : RuleIndex) (rs : List Rule) : RuleIndex := rs.foldl after I

/-- The rules of a sequence that are filed, each as often as it is, with the outcomes. -/
def filings : RuleIndex → List Rule → List (Rule × Outcome)
  | _, [] => []
  | I, r :: rs =>
    match I.compileRule r with
    | .ok (.indexed id n full, J) => (r, .indexed id n full) :: filings J rs
    | .ok (.shadowed, J) => filings J rs
    | .error _ => filings I rs

/-- The outcomes of one rule where it is filed. -/
def filingsOf (r : Rule) (I : RuleIndex) (rs : List Rule) : List Outcome :=
  ((filings I rs).filter fun e => decide (e.1 = r)).map Prod.snd

/-- A rule is filed, or leaves the index alone. -/
theorem filings_cons_cases (I : RuleIndex) (r : Rule) (rs : List Rule) :
    (filings I (r :: rs) = filings I rs ∧ I.after r = I) ∨
      ∃ id n full J, I.compileRule r = .ok (.indexed id n full, J) ∧ I.after r = J ∧
        filings I (r :: rs) = (r, .indexed id n full) :: filings J rs := by
  simp only [filings, after]
  cases h : I.compileRule r with
  | error e => exact Or.inl ⟨rfl, rfl⟩
  | ok result =>
    obtain ⟨o, J⟩ := result
    cases o with
    | indexed id n full => exact Or.inr ⟨id, n, full, J, rfl, rfl, rfl⟩
    | shadowed =>
      obtain ⟨c, -, ⟨ho, -⟩ | ⟨-, rfl⟩⟩ := compileRule_cases h
      · cases ho
      · exact Or.inl ⟨rfl, rfl⟩

theorem grows_after (I : RuleIndex) (r : Rule) : I.Grows (I.after r) := by
  unfold after
  split
  · rename_i h
    exact .rule .refl h
  · exact .refl

theorem grows_compileAll (I : RuleIndex) (rs : List Rule) : I.Grows (I.compileAll rs) := by
  induction rs generalizing I with
  | nil => exact .refl
  | cons r rs ih => exact (grows_after I r).trans (ih _)

/-- A rule is not filed in a sequence, or it is filed a first time and what is left of the sequence
    begins behind that. -/
theorem filingsOf_cases (r : Rule) (I : RuleIndex) (rs : List Rule) :
    filingsOf r I rs = [] ∨ ∃ J id n full K rest, I.Grows J ∧
      J.compileRule r = .ok (.indexed id n full, K) ∧
      filingsOf r I rs = .indexed id n full :: filingsOf r K rest := by
  induction rs generalizing I with
  | nil => exact Or.inl rfl
  | cons q rs ih =>
    rcases filings_cons_cases I q rs with ⟨hsame, -⟩ | ⟨id, n, full, J, hq, hafter, hnew⟩
    · rw [filingsOf, hsame]
      exact ih I
    · by_cases hqr : q = r
      · subst hqr
        exact Or.inr ⟨I, id, n, full, J, rs, .refl, hq, by simp [filingsOf, hnew]⟩
      · have htail : filingsOf r I (q :: rs) = filingsOf r J rs := by simp [filingsOf, hnew, hqr]
        rw [htail]
        refine (ih J).imp_right ?_
        intro hx
        obtain ⟨J', id', n', full', K, rest, hJ', hr, hrest⟩ := hx
        exact ⟨J', id', n', full', K, rest, (Grows.rule .refl hq).trans hJ', hr, hrest⟩

theorem filingsOf_of_spent (h : Spent I r) (rs : List Rule) : filingsOf r I rs = [] := by
  rcases filingsOf_cases r I rs with hnil | ⟨J, id, n, full, K, rest, hJ, hr, -⟩
  · exact hnil
  · rw [h hJ] at hr
    cases hr

/-- **A rule is filed twice at most, the second time under its key alone.** -/
theorem filingsOf_eq (r : Rule) (I : RuleIndex) (rs : List Rule) : filingsOf r I rs = [] ∨
    (∃ o, filingsOf r I rs = [o]) ∨ ∃ o id, filingsOf r I rs = [o, .indexed id 0 true] := by
  rcases filingsOf_cases r I rs with hnil | ⟨J, id, n, full, K, rest, -, hfirst, heq⟩
  · exact Or.inl hnil
  refine Or.inr ?_
  rw [heq]
  rcases filingsOf_cases r K rest with hnil | ⟨L, id', n', full', M, rest', hL, hsecond, heq'⟩
  · exact Or.inl ⟨_, by rw [hnil]⟩
  · obtain ⟨hcases, hspent⟩ := compile_again hfirst hL hsecond
    rw [heq', filingsOf_of_spent hspent]
    rcases hcases with ho | ⟨id, ho⟩
    · cases ho
    · exact Or.inr ⟨_, id, by rw [ho]⟩

/-! ## 6. The number of patterns -/

theorem size_compileAll (I : RuleIndex) (rs : List Rule) :
    (I.compileAll rs).patterns.size = I.patterns.size + (filings I rs).length := by
  induction rs generalizing I with
  | nil => rfl
  | cons r rs ih =>
    show ((I.after r).compileAll rs).patterns.size = _
    rcases filings_cons_cases I r rs with ⟨hsame, hafter⟩ | ⟨id, n, full, J, hr, hafter, hnew⟩
    · rw [hsame, hafter, ih]
    · obtain ⟨c, -, -, -, hfiled⟩ := compileRule_indexed hr
      rw [hnew, hafter, ih, hfiled.patterns, Array.size_push, List.length_cons]
      omega

theorem filings_subset (I : RuleIndex) (rs : List Rule) : (filings I rs).map Prod.fst ⊆ rs := by
  induction rs generalizing I with
  | nil => exact List.Subset.refl _
  | cons r rs ih =>
    rcases filings_cons_cases I r rs with ⟨hsame, -⟩ | ⟨id, n, full, J, -, -, hnew⟩
    · rw [hsame]
      exact List.subset_cons_of_subset r (ih I)
    · rw [hnew, List.map_cons]
      exact List.cons_subset_cons r (ih J)

theorem count_filings (r : Rule) (I : RuleIndex) (rs : List Rule) :
    ((filings I rs).map Prod.fst).count r = (filingsOf r I rs).length := by
  rw [List.count, List.countP_map, List.countP_eq_length_filter, filingsOf, List.length_map]
  rfl

/-- A list in which nothing stands more than `n` times is at most `n` times as long as a list of
    what stands in it. -/
theorem length_le_mul_dedup {α : Type} [DecidableEq α] {l s : List α} {n : Nat} (hsub : l ⊆ s)
    (hcount : ∀ a, l.count a ≤ n) : l.length ≤ n * s.dedup.length := by
  have hle : l.toFinset.card ≤ s.toFinset.card :=
    Finset.card_le_card fun a ha => List.mem_toFinset.mpr (hsub (List.mem_toFinset.mp ha))
  calc l.length = ∑ a ∈ l.toFinset, l.count a := (List.sum_toFinset_count_eq_length l).symm
    _ ≤ l.toFinset.card * n := Finset.sum_le_card_nsmul _ _ _ fun a _ => hcount a
    _ ≤ s.toFinset.card * n := Nat.mul_le_mul_right n hle
    _ = n * s.dedup.length := by rw [List.card_toFinset, Nat.mul_comm]

/-- **Growth is bounded over any history.** In a sequence of rules, whatever stands between, each
    rule is filed twice at most, the second time under no signature and with its key; a rule that
    was shadowed is shadowed ever after and leaves the index alone. So an index that began empty
    has at most twice as many patterns as there are different rules. -/
theorem filings_bounded (I : RuleIndex) (rs : List Rule) :
    (∀ r, (filingsOf r I rs).length ≤ 2 ∧
      ∀ o, (filingsOf r I rs)[1]? = some o → ∃ id, o = .indexed id 0 true) ∧
    (∀ r J, I.compileRule r = .ok (.shadowed, J) →
      (J.compileAll rs).compileRule r = .ok (.shadowed, J.compileAll rs)) ∧
    (RuleIndex.compileAll {} rs).patterns.size ≤ 2 * rs.dedup.length := by
  have htwice : ∀ r (I : RuleIndex), (filingsOf r I rs).length ≤ 2 := by
    intro r I
    rcases filingsOf_eq r I rs with h | ⟨o, h⟩ | ⟨o, id, h⟩ <;> simp [h]
  refine ⟨fun r => ⟨htwice r I, fun o ho => ?_⟩, fun r J h => ?_, ?_⟩
  · rcases filingsOf_eq r I rs with h | ⟨_, h⟩ | ⟨_, id, h⟩
    · simp [h] at ho
    · simp [h] at ho
    · exact ⟨id, by simpa [h, eq_comm] using ho⟩
  · exact spent_of_shadowed h (grows_compileAll J rs)
  · rw [size_compileAll]
    have hlength := length_le_mul_dedup (filings_subset {} rs)
      fun r => (count_filings r {} rs).trans_le (htwice r {})
    rw [List.length_map] at hlength
    simpa using hlength

/-- A rule with a wildcard in front of a window, and five windows behind it. -/
def bannerRule : Rule := ⟨"ad*bannerserver".toList, [], .uri⟩

/-- The rule four times, with another one in between. -/
def bannerRules : List Rule :=
  [bannerRule, ⟨"/ads/".toList, [], .uri⟩, bannerRule, bannerRule, bannerRule]

/-- It is filed under its windows, then under its key, and then no more. -/
theorem filings_bounded_banner :
    filingsOf bannerRule {} bannerRules = [.indexed 0 5 false, .indexed 2 0 true] ∧
    (filingsOf bannerRule {} bannerRules).length ≤ 2 ∧
    (∃ id, Outcome.indexed 2 0 true = .indexed id 0 true) ∧
    (∃ J, (RuleIndex.compileAll {} bannerRules).compileRule bannerRule = .ok (.shadowed, J) ∧
      (J.compileAll bannerRules).compileRule bannerRule =
        .ok (.shadowed, J.compileAll bannerRules)) ∧
    (RuleIndex.compileAll {} bannerRules).patterns.size ≤ 2 * 2 := by
  have hfilings : filingsOf bannerRule {} bannerRules =
      [.indexed 0 5 false, .indexed 2 0 true] := by
    decide +kernel
  obtain ⟨J, hJ⟩ := exists_compileRule (show ((RuleIndex.compileAll {} bannerRules).compileRule
    bannerRule).toOption.map Prod.fst = some .shadowed by decide +kernel)
  obtain ⟨hrule, -, hsize⟩ := filings_bounded {} bannerRules
  obtain ⟨-, hshadowed, -⟩ := filings_bounded (RuleIndex.compileAll {} bannerRules) bannerRules
  exact ⟨hfilings, (hrule bannerRule).1, (hrule bannerRule).2 _ (by rw [hfilings]; rfl),
    ⟨J, hJ, hshadowed bannerRule J hJ⟩, hsize⟩

end RuleIndex

end RequestFilter
