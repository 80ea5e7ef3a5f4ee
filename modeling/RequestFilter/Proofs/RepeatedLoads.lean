import RequestFilter.Proofs.Recompiling

/-!
# Loading a list again

Behind a list all its rules are covered, so loading it a second time files those rules only that ask
again, and those under their keys alone. After that none of them asks for anything.

* `RuleIndex.keysAskedAgain`: the keys of the rules that ask again;
* `RuleIndex.Refiles`: what filing rules that are covered does, `refiles_fileAll`;
* `RuleIndex.Settled`: all rules are covered and none asks again; `settled_fileAll`: **so it is once
  the rules were filed a second time**;
* `RuleSet.load_again`: **a second load adds as many patterns as there are different keys asked for
  again, and nothing exactly if there are none**; a third load adds nothing, whatever the index has
  grown to in between.
-/

namespace RequestFilter

namespace RuleIndex

variable {I J : RuleIndex} {c : CompiledRule} {cs : List CompiledRule}

/-! ## 1. Filing many rules -/

/-- Every rule has an outcome. -/
theorem count_fileAll (I : RuleIndex) (cs : List CompiledRule) :
    filedCount (I.fileAll cs).1 + shadowedCount (I.fileAll cs).1 = cs.length := by
  have hlength : (I.fileAll cs).1.length = cs.length := by
    induction cs generalizing I with
    | nil => rfl
    | cons c cs ih => rw [fileAll_cons, List.length_cons, List.length_cons, ih]
  rw [← hlength, filedCount, shadowedCount]
  simpa using (List.length_eq_countP_add_countP (fun o => Outcome.isIndexed o)).symm

/-- Every rule that is filed brings one pattern. -/
theorem size_fileAll (I : RuleIndex) (cs : List CompiledRule) :
    (I.fileAll cs).2.patterns.size = I.patterns.size + filedCount (I.fileAll cs).1 := by
  induction cs generalizing I with
  | nil => rfl
  | cons c cs ih =>
    rw [fileAll_cons]
    cases hresult : c.place I with
    | mk o J =>
      rcases CompiledRule.place_cases hresult with ⟨rfl, hfiled⟩ | ⟨rfl, rfl⟩
      · rw [filedCount_indexed, ih, hfiled.patterns, Array.size_push]
        omega
      · rw [filedCount_shadowed, ih]

/-- **Once rules were filed all of them are covered.** -/
theorem covered_of_fileAll (I : RuleIndex) (h : c ∈ cs) : c.Covered (I.fileAll cs).2 := by
  induction cs generalizing I with
  | nil => cases h
  | cons d cs ih =>
    rcases List.mem_cons.mp h with rfl | h
    · exact (CompiledRule.covered_of_place rfl).of_extends (extends_fileAll _ cs)
    · exact ih _ h

/-! ## 2. Filing covered rules -/

/-- The keys of the rules that ask again, as often as there are such rules. -/
def keysAskedAgain (I : RuleIndex) (cs : List CompiledRule) : List Text :=
  (cs.filter fun c => decide (c.AsksAgain I)).map CompiledRule.key

theorem mem_keysAskedAgain {k : Text} :
    k ∈ keysAskedAgain I cs ↔ ∃ c ∈ cs, c.AsksAgain I ∧ c.key = k := by
  simp [keysAskedAgain, and_assoc]

theorem keysAskedAgain_eq_nil : keysAskedAgain I cs = [] ↔ ∀ c ∈ cs, ¬ c.AsksAgain I := by
  simp [keysAskedAgain]

/-- Filing a pattern under a key takes that key and no other. -/
theorem Filed.hasFullPattern_iff {p : Pattern} {signatures : List Text} {k other : Text}
    (h : Filed I J p signatures (some k)) :
    J.hasFullPattern other = true ↔ I.hasFullPattern other = true ∨ other = k := by
  rw [hasFullPattern_eq, hasFullPattern_eq, h.fullPattern]
  by_cases hk : k = other
  · simp [hk]
  · simp [hk, Ne.symm hk]

/-- It silences the rules with that key, and no others. -/
theorem keysAskedAgain_of_filed {p : Pattern} {signatures : List Text} {k : Text}
    (h : Filed I J p signatures (some k)) (cs : List CompiledRule) :
    keysAskedAgain J cs = (keysAskedAgain I cs).filter fun other => !other == k := by
  have hasks : ∀ c : CompiledRule, c.AsksAgain J ↔ c.AsksAgain I ∧ c.key ≠ k := by
    intro c
    have hkey : J.hasFullPattern c.key = true ↔ _ := h.hasFullPattern_iff
    simp only [CompiledRule.AsksAgain, ← Bool.not_eq_true, hkey, not_or, and_assoc, ne_eq]
  rw [keysAskedAgain, keysAskedAgain, List.filter_map, List.filter_filter]
  refine congrArg (List.map _) (List.filter_congr fun c _ => ?_)
  simp [hasks, Bool.and_comm, ← beq_eq_decide]

/-- What filing rules that are covered does: no signature changes, the pattern map gets the keys
    that are asked for again, and of rules with the same key one is filed. -/
structure Refiles (I : RuleIndex) (cs : List CompiledRule) (filed : List Outcome × RuleIndex) :
    Prop where
  signature : ∀ w, filed.2.signature w = I.signature w
  fullPattern : ∀ k, filed.2.hasFullPattern k = true ↔
    I.hasFullPattern k = true ∨ k ∈ keysAskedAgain I cs
  filed : filedCount filed.1 = (keysAskedAgain I cs).eraseDups.length

theorem refiles_fileAll (h : ∀ c ∈ cs, c.Covered I) : Refiles I cs (I.fileAll cs) := by
  -- a rule that asks again takes its key, so that the rules behind it ask for one key less
  induction cs generalizing I with
  | nil => exact ⟨fun _ => rfl, fun _ => by simp [fileAll, keysAskedAgain], rfl⟩
  | cons c cs ih =>
    have hc := h c List.mem_cons_self
    have hcs := fun d hd => h d (List.mem_cons_of_mem c hd)
    rw [fileAll_cons]
    by_cases hasks : c.AsksAgain I
    · obtain ⟨J, hJ, hfiled⟩ := CompiledRule.place_of_asksAgain hc hasks
      obtain ⟨hsignature, hfullPattern, hcount⟩ :=
        ih fun d hd => (hcs d hd).of_extends hfiled.extends
      rw [hJ]
      have hkeys : keysAskedAgain I (c :: cs) = c.key :: keysAskedAgain I cs := by
        simp [keysAskedAgain, hasks]
      refine ⟨fun w => ?_, fun k => ?_, ?_⟩
      · rw [hsignature, hfiled.signature]
        simp
      · rw [hfullPattern, hfiled.hasFullPattern_iff, keysAskedAgain_of_filed hfiled, hkeys]
        by_cases hk : k = c.key <;> simp [hk]
      · rw [hkeys, List.eraseDups_cons, ← keysAskedAgain_of_filed hfiled, List.length_cons,
          ← hcount, filedCount_indexed]
    · have hkeys : keysAskedAgain I (c :: cs) = keysAskedAgain I cs := by
        simp [keysAskedAgain, hasks]
      obtain ⟨hsignature, hfullPattern, hcount⟩ := ih hcs
      rw [CompiledRule.place_of_not_asksAgain hc hasks]
      refine ⟨hsignature, ?_, ?_⟩
      · rwa [hkeys]
      · rwa [hkeys, filedCount_shadowed]

/-! ## 3. Filing settled rules -/

/-- All rules are covered, and none asks again. -/
structure Settled (I : RuleIndex) (cs : List CompiledRule) : Prop where
  covered : ∀ c ∈ cs, c.Covered I
  silent : keysAskedAgain I cs = []

theorem Settled.of_extends (h : Settled I cs) (hJ : I.Extends J) : Settled J cs where
  covered c hc := (h.covered c hc).of_extends hJ
  silent := keysAskedAgain_eq_nil.mpr fun c hc hasks =>
    keysAskedAgain_eq_nil.mp h.silent c hc (hasks.of_extends hJ)

/-- **Settled rules leave the index alone.** -/
theorem Settled.fileAll (h : Settled I cs) :
    (I.fileAll cs).2 = I ∧ filedCount (I.fileAll cs).1 = 0 := by
  refine ⟨?_, by rw [(refiles_fileAll h.covered).filed, h.silent]; rfl⟩
  have hplace : ∀ c ∈ cs, c.place I = (.shadowed, I) := fun c hc =>
    CompiledRule.place_of_not_asksAgain (h.covered c hc) (keysAskedAgain_eq_nil.mp h.silent c hc)
  clear h
  induction cs with
  | nil => rfl
  | cons c cs ih =>
    rw [fileAll_cons, hplace c List.mem_cons_self]
    exact ih fun d hd => hplace d (List.mem_cons_of_mem c hd)

/-- **Rules that are filed a second time are settled.** -/
theorem settled_fileAll (h : ∀ c ∈ cs, c.Covered I) : Settled (I.fileAll cs).2 cs where
  covered _ hc := covered_of_fileAll I hc
  silent := by
    refine keysAskedAgain_eq_nil.mpr fun c hc hasks => ?_
    have hkey : (I.fileAll cs).2.hasFullPattern c.key = true :=
      ((refiles_fileAll h).fullPattern c.key).mpr (Or.inr (mem_keysAskedAgain.mpr
        ⟨c, hc, hasks.of_extends (extends_fileAll I cs), rfl⟩))
    rw [hasks.2.2] at hkey
    cases hkey

end RuleIndex

namespace RuleSet

/-! ## 4. Loading a list twice -/

/-- What becomes of the rules of a list, all in all. -/
theorem rules_load (s : RuleSet) (maxLine : Nat) (list : Text) :
    (s.load maxLine list).result.rules + (s.load maxLine list).result.shadowed =
      (rulesOf maxLine list).length := by
  have hload := RuleIndex.tallies_load s maxLine list
  rw [hload.rules, hload.shadowed, RuleIndex.count_fileAll]

/-- Behind a list its rules are covered. -/
theorem covered_load (s : RuleSet) (maxLine : Nat) (list : Text) :
    ∀ c ∈ rulesOf maxLine list, c.Covered (s.load maxLine list).rules.index := by
  rw [(RuleIndex.tallies_load s maxLine list).index]
  exact fun c hc => RuleIndex.covered_of_fileAll _ hc

/-- A list whose rules are settled adds nothing. -/
theorem load_of_settled {s : RuleSet} {maxLine : Nat} {list : Text}
    (h : s.index.Settled (rulesOf maxLine list)) :
    (s.load maxLine list).rules.index = s.index ∧ (s.load maxLine list).result.rules = 0 ∧
      (s.load maxLine list).result.shadowed = (rulesOf maxLine list).length := by
  have hload := RuleIndex.tallies_load s maxLine list
  obtain ⟨hindex, hzero⟩ := h.fileAll
  have hall := rules_load s maxLine list
  rw [hload.rules, hzero, Nat.zero_add] at hall
  exact ⟨hload.index.trans hindex, hload.rules.trans hzero, hall⟩

/-- **A list that is loaded again adds the keys that are asked for again, and no more.** A second
    load adds nothing exactly if no key is asked for again; else as many patterns as there are
    different keys, under these keys and under no signature. From then on it adds nothing, however
    the index grows. -/
theorem load_again (s : RuleSet) (maxLine : Nat) (list : Text) :
    let first := s.load maxLine list
    let second := first.rules.load maxLine list
    let keys := first.rules.index.keysAskedAgain (rulesOf maxLine list)
    (keys = [] ↔ second.rules.index = first.rules.index ∧ second.result.rules = 0 ∧
      second.result.shadowed = first.result.rules + first.result.shadowed) ∧
    (second.result.rules = keys.eraseDups.length ∧
      second.result.rules + second.result.shadowed = first.result.rules + first.result.shadowed ∧
      second.rules.index.patterns.size = first.rules.index.patterns.size + second.result.rules ∧
      (∀ w, second.rules.index.signature w = first.rules.index.signature w) ∧
      ∀ k, second.rules.index.hasFullPattern k = true ↔
        first.rules.index.hasFullPattern k = true ∨ k ∈ keys) ∧
    ∀ t : RuleSet, second.rules.index.Grows t.index →
      (t.load maxLine list).rules.index = t.index ∧ (t.load maxLine list).result.rules = 0 ∧
        (t.load maxLine list).result.shadowed = first.result.rules + first.result.shadowed := by
  intro first second keys
  have hcovered := covered_load s maxLine list
  have hsecond := RuleIndex.tallies_load first.rules maxLine list
  have hrefiles := RuleIndex.refiles_fileAll hcovered
  have hall : first.result.rules + first.result.shadowed = (rulesOf maxLine list).length :=
    rules_load s maxLine list
  have hrules : second.result.rules = keys.eraseDups.length := hsecond.rules.trans hrefiles.filed
  rw [hall]
  refine ⟨⟨fun hnone => load_of_settled ⟨hcovered, hnone⟩, fun hx => ?_⟩,
    ⟨hrules, rules_load first.rules maxLine list, ?_, ?_, ?_⟩, fun t ht => ?_⟩
  · have hzero : keys.eraseDups.length = 0 := hrules.symm.trans hx.2.1
    cases hkeys : keys with
    | nil => rfl
    | cons k rest => simp [hkeys, List.eraseDups_cons] at hzero
  · rw [hsecond.index, hsecond.rules, RuleIndex.size_fileAll]
  · rw [hsecond.index]
    exact hrefiles.signature
  · rw [hsecond.index]
    exact hrefiles.fullPattern
  · have hsettled : second.rules.index.Settled (rulesOf maxLine list) := by
      rw [hsecond.index]
      exact RuleIndex.settled_fileAll hcovered
    exact load_of_settled (hsettled.of_extends ht.extends)

/-- A list of one rule with a wildcard in front of a window. -/
def bannerList : Text := "ad*bannerserver\n".toList

/-- The second time the rule gets its key, the third time nothing. -/
theorem load_again_banner :
    let first := ({} : RuleSet).load defaultMaxLine bannerList
    let second := first.rules.load defaultMaxLine bannerList
    second.result.rules = ["ad.*bannerserver".toList].eraseDups.length ∧
    (second.rules.load defaultMaxLine bannerList).rules.index = second.rules.index := by
  intro first second
  obtain ⟨-, ⟨hrules, -⟩, hthird⟩ := load_again {} defaultMaxLine bannerList
  have hkeys : first.rules.index.keysAskedAgain (rulesOf defaultMaxLine bannerList) =
      ["ad.*bannerserver".toList] := by
    decide +kernel
  rw [hkeys] at hrules
  exact ⟨hrules, (hthird second.rules .refl).1⟩

/-- Loading an unchanged list again need not leave the index as it is. -/
theorem second_load_files : ¬ ∀ (s : RuleSet) (maxLine : Nat) (list : Text),
    let first := s.load maxLine list
    let second := first.rules.load maxLine list
    second.rules.index = first.rules.index ∧ second.result.rules = 0 ∧
      second.result.shadowed = first.result.rules + first.result.shadowed := by
  intro h
  obtain ⟨hindex, -⟩ := h {} defaultMaxLine bannerList
  have hsizes : (({} : RuleSet).load defaultMaxLine bannerList).rules.index.patterns.size = 1 ∧
      ((({} : RuleSet).load defaultMaxLine bannerList).rules.load defaultMaxLine
        bannerList).rules.index.patterns.size = 2 := by
    decide +kernel
  rw [hindex, hsizes.1] at hsizes
  cases hsizes.2

end RuleSet

end RequestFilter
