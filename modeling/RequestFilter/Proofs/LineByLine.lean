import RequestFilter.Proofs.IdleLines

/-!
# Loads, line by line

A load takes in the lines of a list one after the other. What they come to, what is counted and what
is reported can each be told from stretches of lines, so that a line may be looked at by itself
wherever it stands.

* `RuleSet.loadLines_append`: **one stretch of lines behind another**;
* `loadLines_number`, `loadLines_congr`: neither the number of the first line nor the blanks at the
  ends of lines matter; `load_eq_rawLines`: so the lines may be taken with their ends;
* `number_of_mem_events`, `count_events_eq_zero`: **what is reported about a dropped line has its
  number**;
* `load_of_inert`: **a line that changes no rule set may be left out**.
-/

namespace RequestFilter

/-! ## 1. Stretches of lines -/

theorem LoadStats.empty_merge (m : LoadStats) : ({} : LoadStats).merge m = m := by simp [merge]

theorem LoadStats.merge_comm (m n : LoadStats) : m.merge n = n.merge m := by
  simp only [merge, Nat.add_comm]

namespace RuleSet

variable {maxLine number : Nat} {s : RuleSet} {line : Text}

/-- **Lines are taken in one stretch after the other.** -/
theorem loadLines_append (maxLine number : Nat) (s : RuleSet) (lines more : List Text) :
    loadLines maxLine number s (lines ++ more) =
      let first := loadLines maxLine number s lines
      let rest := loadLines maxLine (number + lines.length) first.rules more
      ⟨rest.rules, first.result.merge rest.result, first.events ++ rest.events⟩ := by
  induction lines generalizing number s with
  | nil =>
    simp only [List.nil_append, loadLines, List.length_nil, Nat.add_zero, LoadStats.empty_merge]
  | cons line lines ih =>
    have hnumber : number + 1 + lines.length = number + (line :: lines).length := by
      rw [List.length_cons]
      omega
    simp only [List.cons_append, loadLines, ih, hnumber, LoadStats.merge_assoc, List.append_assoc]

/-- The number of the first line matters to what is reported, and to nothing else. -/
theorem loadLines_number (maxLine m n : Nat) (s : RuleSet) (lines : List Text) :
    (loadLines maxLine m s lines).rules = (loadLines maxLine n s lines).rules ∧
      (loadLines maxLine m s lines).result = (loadLines maxLine n s lines).result := by
  have hm := Cli.CompiledLists.foldl_addLine maxLine m ⟨s, {}⟩ lines
  rw [Cli.CompiledLists.foldl_addLine maxLine n ⟨s, {}⟩ lines] at hm
  simpa only [LoadStats.empty_merge, Cli.CompiledLists.mk.injEq, eq_comm] using hm

/-- Lines are the same to a load if they are so without the blanks at their ends. -/
theorem loadLines_congr {lines others : List Text}
    (h : lines.map Text.trimEnd = others.map Text.trimEnd) :
    loadLines maxLine number s lines = loadLines maxLine number s others := by
  induction lines generalizing number s others with
  | nil => rw [List.map_eq_nil_iff.mp h.symm]
  | cons line lines ih =>
    cases others with
    | nil => cases h
    | cons other others =>
      rw [List.map_cons, List.map_cons, List.cons.injEq] at h
      simp only [loadLines, h.1, ih h.2]

/-- **A load takes in the lines, however they end.** -/
theorem load_eq_rawLines (s : RuleSet) (maxLine : Nat) (text : Text) :
    s.load maxLine text = loadLines maxLine 1 s (Text.rawLines text) :=
  loadLines_congr (Text.map_trimEnd_rawLines text).symm

/-! ## 2. Reports -/

theorem number_of_mem_addRule {r : Rule} {n : Nat} {cause : CompileError}
    (h : .droppedLine n cause ∈ (s.addRule number r).events) : n = number := by
  unfold addRule at h
  split at h
  · cases h
  · exact (LoadEvent.droppedLine.inj (List.mem_singleton.mp h)).1
  · -- filed or shadowed, a rule is reported only as an expression
    rename_i c _
    simp only at h
    split at h <;> cases hplace : c.placement <;> simp [hplace] at h

/-- A line that is dropped is reported under its number. -/
theorem number_of_mem_addLine {n : Nat} {cause : CompileError}
    (h : .droppedLine n cause ∈ (s.addLine maxLine number line).events) : n = number := by
  have hselector : ∀ hider, LoadEvent.droppedLine n cause ∉ (s.addSelector hider).events := by
    rintro (_ | hider) <;> exact List.not_mem_nil
  unfold addLine at h
  split at h
  · exact (LoadEvent.droppedLine.inj (List.mem_singleton.mp h)).1
  cases hkind : LineKind.classify line with
  | rule r => exact number_of_mem_addRule (by simpa only [hkind] using h)
  | elementHider selector => exact absurd (by simpa only [hkind] using h) (hselector _)
  | domainHider line separator => exact absurd (by simpa only [hkind] using h) (hselector _)
  | _ => simp [hkind] at h

/-- What is reported about lines has their numbers. -/
theorem number_of_mem_events {lines : List Text} {n : Nat} {cause : CompileError}
    (h : .droppedLine n cause ∈ (loadLines maxLine number s lines).events) :
    number ≤ n ∧ n < number + lines.length := by
  induction lines generalizing number s with
  | nil => cases h
  | cons line lines ih =>
    rw [List.length_cons]
    rcases List.mem_append.mp h with hfirst | hrest
    · have hn := number_of_mem_addLine hfirst
      omega
    · have hn := ih hrest
      omega

/-- So nothing is reported under any other number. -/
theorem count_events_eq_zero {lines : List Text} {n : Nat} {cause : CompileError}
    (h : n < number ∨ number + lines.length ≤ n) :
    (loadLines maxLine number s lines).events.count (.droppedLine n cause) = 0 := by
  refine List.count_eq_zero.mpr fun hmem => ?_
  have hn := number_of_mem_events hmem
  omega

/-! ## 3. Single lines -/

/-- A line over the limit is dropped, whatever it is. -/
theorem addLine_of_long (h : maxLine < line.byteSize) : s.addLine maxLine number line =
    ⟨s, .tooLong, [.droppedLine number (.lineTooLong line.byteSize)]⟩ := if_pos h

/-- The empty line is a comment. -/
theorem addLine_nil : s.addLine maxLine number [] = ⟨s, .comment, []⟩ :=
  if_neg (Nat.not_lt_zero maxLine)

/-- **A line that changes no rule set may be left out.** It adds its own counters to those of the
    others, and nobody else reports under its number. -/
theorem load_of_inert {text raw : Text} {before after : List Text} {result : LineResult}
    {events : Nat → List LoadEvent} (hlines : Text.rawLines text = before ++ raw :: after)
    (hinert : ∀ (t : RuleSet) number,
      t.addLine maxLine number raw.trimEnd = ⟨t, result, events number⟩) :
    let loaded := s.load maxLine text
    let without := s.load maxLine (before ++ after).flatten
    loaded.rules = without.rules ∧ loaded.result = without.result.merge result.stats ∧
      ∀ cause, loaded.events.count (.droppedLine (before.length + 1) cause) =
        (events (before.length + 1)).count (.droppedLine (before.length + 1) cause) := by
  intro loaded without
  have hsublist : (before ++ after).Sublist (Text.rawLines text) :=
    hlines ▸ (List.sublist_cons_self raw after).append_left before
  have hloaded : loaded = loadLines maxLine 1 s (before ++ raw :: after) :=
    hlines ▸ load_eq_rawLines s maxLine text
  have hwithout : without = loadLines maxLine 1 s (before ++ after) := by
    rw [← Text.rawLines_flatten hsublist]
    exact load_eq_rawLines s maxLine _
  rw [loadLines_append] at hloaded hwithout
  simp only [loadLines, hinert] at hloaded
  obtain ⟨hrules, hresult⟩ := loadLines_number maxLine (1 + before.length + 1) (1 + before.length)
    (loadLines maxLine 1 s before).rules after
  rw [hloaded, hwithout]
  refine ⟨hrules, ?_, fun cause => ?_⟩
  · simp only [hresult, LoadStats.merge_assoc, LoadStats.merge_comm result.stats]
  · have hfirst : (loadLines maxLine 1 s before).events.count
        (.droppedLine (1 + before.length) cause) = 0 := count_events_eq_zero (.inr (Nat.le_refl _))
    rw [Nat.add_comm before.length 1]
    simp only [List.count_append, hfirst, Nat.zero_add, Nat.add_zero,
      count_events_eq_zero (.inl (Nat.lt_succ_self (1 + before.length)))]

end RuleSet

end RequestFilter
