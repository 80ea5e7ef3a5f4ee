import RequestFilter.FilterList
import RequestFilter.Proofs.Filing

/-!
# Histories of an index

How an index comes about: rules are compiled into it and lists are loaded into it, and clearing it
starts again from the empty one.

* `RuleIndex.Grows`: one index comes from another by rules and lists, without being cleared;
* `RuleIndex.Reachable`: it comes from the empty index in this way;
* `RuleSet.rulesOf`: the rules of a list, compiled; `RuleIndex.fileAll` files them one after the
  other, and `tallies_load`: **a list is no more than its rules**;
* `Grows.preserves`: what every rule keeps is kept by growing;
* `Grows.extends`, `Reachable.wellFormed`: **growing keeps every way to a pattern**, and in a
  reachable index no entry points past the patterns.
-/

namespace RequestFilter

namespace RuleIndex

/-! ## 1. Steps -/

/-- The second index comes from the first by compiling rules and loading lists. -/
inductive Grows (I : RuleIndex) : RuleIndex → Prop where
  | refl : Grows I I
  | rule {J K : RuleIndex} {r : Rule} {o : Outcome} (h : Grows I J)
      (hr : J.compileRule r = .ok (o, K)) : Grows I K
  | list {s : RuleSet} (h : Grows I s.index) (maxLine : Nat) (text : Text) :
      Grows I (s.load maxLine text).rules.index

/-- The index comes about from nothing. Clearing an index is no step of its own: it leads back to
    the empty one. -/
def Reachable (I : RuleIndex) : Prop := Grows {} I

theorem Grows.trans {I J K : RuleIndex} (h : Grows I J) (h' : Grows J K) : Grows I K := by
  induction h' with
  | refl => exact h
  | rule _ hr ih => exact .rule ih hr
  | list _ maxLine text ih => exact .list ih maxLine text

end RuleIndex

/-! ## 2. The rules of a list -/

/-- The rule was filed. -/
def Outcome.isIndexed : Outcome → Bool
  | .indexed _ _ _ => true
  | .shadowed => false

/-- The line held a rule that compiled. -/
def LineResult.isRule : LineResult → Bool
  | .indexed | .shadowed => true
  | _ => false

/-- What becomes of a line with a rule. -/
def LineResult.ofOutcome (o : Outcome) : LineResult := if o.isIndexed then .indexed else .shadowed

/-- Only the two counters of rules depend on the outcome. -/
theorem LineResult.stats_ofOutcome (o : Outcome) : (ofOutcome o).stats =
    { lines := 1
      rules := if o.isIndexed then 1 else 0
      shadowed := if !o.isIndexed then 1 else 0 } := by
  cases o <;> rfl

/-- A line without a rule counts as none. -/
theorem LineResult.stats_of_not_isRule {result : LineResult} (h : result.isRule = false) :
    result.stats.rules = 0 ∧ result.stats.shadowed = 0 := by
  cases result with
  | indexed => cases h
  | shadowed => cases h
  | _ => exact ⟨rfl, rfl⟩

namespace RuleSet

/-- The rule on a line, compiled; none if the line is too long or holds no rule that compiles. -/
def ruleOn? (maxLine : Nat) (line : Text) : Option CompiledRule :=
  if maxLine < line.byteSize then none
  else match LineKind.classify line with
    | .rule r => r.compile.toOption
    | _ => none

/-- The rules on some lines, whose blanks at the end do not count. -/
def rulesOn (maxLine : Nat) (lines : List Text) : List CompiledRule :=
  lines.filterMap fun line => ruleOn? maxLine (Text.trimEnd line)

/-- The rules of a list. -/
def rulesOf (maxLine : Nat) (list : Text) : List CompiledRule := rulesOn maxLine (Text.lines list)

theorem ruleOn?_eq_some {maxLine : Nat} {line : Text} {c : CompiledRule} :
    ruleOn? maxLine line = some c ↔ ¬ maxLine < line.byteSize ∧
      ∃ r, LineKind.classify line = .rule r ∧ r.compile = .ok c := by
  unfold ruleOn?
  split
  · rename_i hlong
    simp [hlong]
  · rename_i hlong
    cases hkind : LineKind.classify line with
    | rule r => cases hcompile : r.compile <;> simp [hlong, hcompile, Except.toOption]
    | _ => simp

theorem exists_rule_of_mem {maxLine : Nat} {lines : List Text} {c : CompiledRule}
    (h : c ∈ rulesOn maxLine lines) : ∃ r : Rule, r.compile = .ok c := by
  obtain ⟨line, -, hline⟩ := List.mem_filterMap.mp h
  obtain ⟨-, r, -, hr⟩ := ruleOn?_eq_some.mp hline
  exact ⟨r, hr⟩

/-! ## 3. One line -/

section Line

variable {s : RuleSet} {maxLine : Nat} (number : Nat) {line : Text}

theorem addRule_of_ok {r : Rule} {c : CompiledRule} (h : r.compile = .ok c) :
    (s.addRule number r).rules.index = (c.place s.index).2 ∧
      (s.addRule number r).result = .ofOutcome (c.place s.index).1 := by
  unfold addRule
  simp only [h]
  cases hplace : c.place s.index with
  | mk o J =>
    cases o with
    | indexed id n full => exact ⟨rfl, rfl⟩
    | shadowed =>
      rcases CompiledRule.place_cases hplace with ⟨ho, -⟩ | ⟨-, rfl⟩
      · cases ho
      · exact ⟨rfl, rfl⟩

theorem addRule_of_error {r : Rule} {e : CompileError} (h : r.compile = .error e) :
    (s.addRule number r).rules = s ∧ (s.addRule number r).result.isRule = false := by
  unfold addRule
  cases e <;> simp [h, LineResult.isRule]

theorem addSelector_index (hider : Option ElementHiding) :
    (s.addSelector hider).rules.index = s.index ∧ (s.addSelector hider).result.isRule = false := by
  cases hider <;> exact ⟨rfl, rfl⟩

/-- A line with a rule does to the index what the rule does. -/
theorem addLine_of_rule {c : CompiledRule} (h : ruleOn? maxLine line = some c) :
    (s.addLine maxLine number line).rules.index = (c.place s.index).2 ∧
      (s.addLine maxLine number line).result = .ofOutcome (c.place s.index).1 := by
  obtain ⟨hlong, r, hkind, hr⟩ := ruleOn?_eq_some.mp h
  unfold addLine
  rw [if_neg hlong, hkind]
  exact addRule_of_ok number hr

/-- A line without one leaves the index alone. -/
theorem addLine_of_no_rule (h : ruleOn? maxLine line = none) :
    (s.addLine maxLine number line).rules.index = s.index ∧
      (s.addLine maxLine number line).result.isRule = false := by
  unfold addLine
  by_cases hlong : maxLine < line.byteSize
  · rw [if_pos hlong]
    exact ⟨rfl, rfl⟩
  rw [if_neg hlong]
  cases hkind : LineKind.classify line with
  | elementHider selector => exact addSelector_index _
  | domainHider line separator => exact addSelector_index _
  | rule r =>
    cases hcompile : r.compile with
    | ok c =>
      rw [ruleOn?_eq_some.mpr ⟨hlong, r, hkind, hcompile⟩] at h
      cases h
    | error e =>
      obtain ⟨hrules, hresult⟩ := addRule_of_error (s := s) number hcompile
      exact ⟨congrArg RuleSet.index hrules, hresult⟩
  | _ => exact ⟨rfl, rfl⟩

end Line

end RuleSet

namespace RuleIndex

/-! ## 4. Lists -/

/-- Files compiled rules one after the other. -/
def fileAll : RuleIndex → List CompiledRule → List Outcome × RuleIndex
  | I, [] => ([], I)
  | I, c :: cs =>
    let (o, J) := c.place I
    let (os, K) := fileAll J cs
    (o :: os, K)

theorem fileAll_cons (I : RuleIndex) (c : CompiledRule) (cs : List CompiledRule) :
    I.fileAll (c :: cs) =
      ((c.place I).1 :: ((c.place I).2.fileAll cs).1, ((c.place I).2.fileAll cs).2) := rfl

theorem fileAll_append (I : RuleIndex) (cs ds : List CompiledRule) :
    I.fileAll (cs ++ ds) =
      ((I.fileAll cs).1 ++ ((I.fileAll cs).2.fileAll ds).1, ((I.fileAll cs).2.fileAll ds).2) := by
  induction cs generalizing I with
  | nil => rfl
  | cons c cs ih =>
    rw [List.cons_append, fileAll_cons, fileAll_cons, ih]
    rfl

/-- How many of some rules were filed. -/
def filedCount (os : List Outcome) : Nat := os.countP fun o => o.isIndexed

/-- How many of some rules were shadowed. -/
def shadowedCount (os : List Outcome) : Nat := os.countP fun o => !o.isIndexed

@[simp] theorem filedCount_indexed (id : PatternId) (n : Nat) (full : Bool) (os : List Outcome) :
    filedCount (.indexed id n full :: os) = filedCount os + 1 := List.countP_cons_of_pos rfl

@[simp] theorem filedCount_shadowed (os : List Outcome) :
    filedCount (.shadowed :: os) = filedCount os := List.countP_cons_of_neg Bool.false_ne_true

/-- A load left the index that filing some rules leaves, and its two counters of rules tally with
    what became of them. -/
structure Tallies (loaded : Loaded LoadStats) (filed : List Outcome × RuleIndex) : Prop where
  index : loaded.rules.index = filed.2
  rules : loaded.result.rules = filedCount filed.1
  shadowed : loaded.result.shadowed = shadowedCount filed.1

theorem tallies_loadLines (maxLine number : Nat) (s : RuleSet) (lines : List Text) :
    Tallies (RuleSet.loadLines maxLine number s lines)
      (s.index.fileAll (RuleSet.rulesOn maxLine lines)) := by
  -- what the other lines add to the reports and to the element hiding does not matter
  induction lines generalizing number s with
  | nil => exact ⟨rfl, rfl, rfl⟩
  | cons line lines ih =>
    obtain ⟨hindex, hrules, hshadowed⟩ :=
      ih (number + 1) (s.addLine maxLine number (Text.trimEnd line)).rules
    simp only [RuleSet.rulesOn, List.filterMap_cons] at *
    cases hrule : RuleSet.ruleOn? maxLine (Text.trimEnd line) with
    | none =>
      obtain ⟨hsame, hresult⟩ := RuleSet.addLine_of_no_rule (s := s) number hrule
      obtain ⟨hnoRule, hnoShadowed⟩ := LineResult.stats_of_not_isRule hresult
      rw [hsame] at hindex hrules hshadowed
      refine ⟨hindex, ?_, ?_⟩
      · simp [RuleSet.loadLines, LoadStats.merge, hnoRule, hrules]
      · simp [RuleSet.loadLines, LoadStats.merge, hnoShadowed, hshadowed]
    | some c =>
      obtain ⟨hplaced, hresult⟩ := RuleSet.addLine_of_rule (s := s) number hrule
      rw [hplaced] at hindex hrules hshadowed
      refine ⟨hindex, ?_, ?_⟩
      · simp only [RuleSet.loadLines, LoadStats.merge, hresult, LineResult.stats_ofOutcome, hrules]
        simp [fileAll, filedCount, List.countP_cons, Nat.add_comm]
      · simp only [RuleSet.loadLines, LoadStats.merge, hresult, LineResult.stats_ofOutcome,
          hshadowed]
        simp [fileAll, shadowedCount, List.countP_cons, Nat.add_comm]

/-- **A list is no more than its rules**: loading it files them one after the other, and counts
    those that were filed and those that were shadowed. -/
theorem tallies_load (s : RuleSet) (maxLine : Nat) (list : Text) :
    Tallies (s.load maxLine list) (s.index.fileAll (RuleSet.rulesOf maxLine list)) :=
  tallies_loadLines maxLine 1 s (Text.lines list)

/-- A property that every rule keeps is kept by every list. -/
theorem load_induction {P : RuleIndex → Prop}
    (hrule : ∀ {J K : RuleIndex} {r : Rule} {o : Outcome}, P J → J.compileRule r = .ok (o, K) → P K)
    {s : RuleSet} (hs : P s.index) (maxLine : Nat) (list : Text) :
    P (s.load maxLine list).rules.index := by
  have hfile : ∀ (cs : List CompiledRule), (∀ c ∈ cs, ∃ r : Rule, r.compile = .ok c) →
      ∀ I, P I → P (fileAll I cs).2 := by
    intro cs
    induction cs with
    | nil => exact fun _ _ hI => hI
    | cons c cs ih =>
      intro hcs I hI
      obtain ⟨r, hr⟩ := hcs c List.mem_cons_self
      exact ih (fun d hd => hcs d (List.mem_cons_of_mem _ hd)) _
        (hrule hI (compileRule_eq_ok.mpr ⟨c, hr, rfl⟩))
  rw [(tallies_load s maxLine list).index]
  exact hfile _ (fun c hc => RuleSet.exists_rule_of_mem hc) _ hs

/-- A property that every rule keeps is kept by growing. -/
theorem Grows.preserves {P : RuleIndex → Prop}
    (hrule : ∀ {J K : RuleIndex} {r : Rule} {o : Outcome}, P J → J.compileRule r = .ok (o, K) → P K)
    {I J : RuleIndex} (h : Grows I J) (hI : P I) : P J := by
  induction h with
  | refl => exact hI
  | rule _ hr ih => exact hrule ih hr
  | list _ maxLine text ih => exact load_induction hrule ih maxLine text

/-- The content of a file grows an index as its text does. -/
theorem grows_loadBytes (s : RuleSet) (maxLine : Nat) (path : Text) (content : Bytes) :
    Grows s.index (s.loadBytes maxLine path content).rules.index :=
  .list .refl maxLine (Text.ofBytesLossy content)

/-! ## 5. What growing keeps -/

theorem extends_of_place {I J : RuleIndex} {c : CompiledRule} {o : Outcome}
    (h : c.place I = (o, J)) : Extends I J := by
  rcases CompiledRule.place_cases h with ⟨-, hfiled⟩ | ⟨-, rfl⟩
  · exact hfiled.extends
  · exact .refl _

theorem extends_fileAll (I : RuleIndex) (cs : List CompiledRule) :
    Extends I (I.fileAll cs).2 := by
  induction cs generalizing I with
  | nil => exact .refl I
  | cons c cs ih => exact (extends_of_place rfl).trans (ih _)

theorem extends_of_compileRule {I J : RuleIndex} {r : Rule} {o : Outcome}
    (h : I.compileRule r = .ok (o, J)) : Extends I J := by
  obtain ⟨c, -, hplace⟩ := compileRule_eq_ok.mp h
  exact extends_of_place hplace

/-- **An index that grows leads to all the patterns it led to before.** -/
theorem Grows.extends {I J : RuleIndex} (h : Grows I J) : Extends I J :=
  h.preserves (fun hJ hr => hJ.trans (extends_of_compileRule hr)) (.refl I)

theorem wellFormed_of_compileRule {I J : RuleIndex} {r : Rule} {o : Outcome} (hI : WellFormed I)
    (h : I.compileRule r = .ok (o, J)) : WellFormed J := by
  obtain ⟨c, -, ⟨-, hfiled⟩ | ⟨-, rfl⟩⟩ := compileRule_cases h
  · exact hfiled.wellFormed hI
  · exact hI

/-- **In a reachable index every entry points at a pattern.** -/
theorem Reachable.wellFormed {I : RuleIndex} (h : Reachable I) : WellFormed I :=
  Grows.preserves wellFormed_of_compileRule h wellFormed_empty

end RuleIndex

end RequestFilter
