import RequestFilter.Proofs.Recompiling

/-!
# What an outcome reports

A rule fails to compile, or everything that it asks for is taken, or it is filed and says under how
many signatures, and whether under a key. It counts what it asks for, and the index enters what is
free. Both are the same, whatever the index was before.

* `TextMap.size_foldl_insertIfNew`: keys that are free, and all different, are as many new entries;
  `RuleIndex.stats_of_insert`: what an insertion adds to the sizes of an index;
* `CompiledRule.nodup_signaturesIn`: a rule asks for no signature twice;
* `RuleIndex.Gains`: an index with one pattern more; `Outcome.Reports`: what an outcome says,
  `CompiledRule.reports_place`;
* `RuleIndex.outcome_reports`: **every outcome says what has changed, and an error changes nothing
  and is a matter of the rule alone**.

NOT here: what else leads to the pattern by then (`Proofs/Recompiling.lean`).
-/

namespace RequestFilter

/-! ## 1. New entries -/

theorem nodup_eraseDups {α : Type} [BEq α] [LawfulBEq α] : (l : List α) → l.eraseDups.Nodup
  | [] => List.nodup_nil
  | a :: rest => by
    rw [List.eraseDups_cons, List.nodup_cons]
    exact ⟨by simp [List.mem_eraseDups], nodup_eraseDups (rest.filter fun b => !b == a)⟩
termination_by l => l.length
decreasing_by exact Nat.lt_succ_of_le (List.length_filter_le _ _)

/-- Keys that are free, and all different, are as many new entries. -/
theorem TextMap.size_foldl_insertIfNew {α : Type} {m : TextMap α} {keys : List Text}
    (hnodup : keys.Nodup) (hfree : ∀ k ∈ keys, k ∉ m) (value : α) :
    (keys.foldl (fun m k => m.insertIfNew k value) m).size = m.size + keys.length := by
  induction keys generalizing m with
  | nil => rfl
  | cons key keys ih =>
    obtain ⟨hfirst, hrest⟩ := List.forall_mem_cons.mp hfree
    obtain ⟨hnew, hnodup⟩ := List.nodup_cons.mp hnodup
    have hstill : ∀ k ∈ keys, k ∉ m.insertIfNew key value := by
      intro k hk
      have hother : key ≠ k := fun h => hnew (h ▸ hk)
      simp [Std.TreeMap.mem_insertIfNew, hother, hrest k hk]
    rw [List.foldl_cons, ih hnodup hstill, Std.TreeMap.size_insertIfNew, if_neg hfirst,
      List.length_cons]
    omega

namespace RuleIndex

variable {I J : RuleIndex}

theorem signature_eq_none_iff {w : Text} : I.signature w = none ↔ w ∉ I.signatures := by
  simp [signature]

theorem fullPattern_eq_none_iff {k : Text} : I.fullPattern k = none ↔ k ∉ I.fullPatterns := by
  simp [fullPattern]

/-- **What an insertion adds to the sizes of an index**, if it asks for nothing that is taken. -/
theorem stats_of_insert {p : Pattern} {signatures : List Text} {key : Option Text} {id : PatternId}
    (h : I.insert p signatures key = some (id, J)) (hnodup : signatures.Nodup)
    (hfree : ∀ w ∈ signatures, I.signature w = none) (hkey : ∀ k ∈ key, I.fullPattern k = none) :
    J.stats =
      { patterns := I.stats.patterns + 1
        signatures := I.stats.signatures + signatures.length
        fullPatterns := I.stats.fullPatterns + key.isSome.toNat } := by
  have hall : signatures.filter (!I.hasSignature ·) = signatures :=
    List.filter_eq_self.mpr fun w hw => by simp [hasSignature_eq, hfree w hw]
  have hwhole : key.filter (!I.hasFullPattern ·) = key := by
    cases key with
    | none => rfl
    | some k => simp [hasFullPattern_eq, hkey k rfl]
  unfold insert at h
  simp only [hall, hwhole] at h
  split at h
  · cases h
  simp only [Option.some.injEq, Prod.mk.injEq] at h
  obtain ⟨-, rfl⟩ := h
  have hsignatures := TextMap.size_foldl_insertIfNew (m := I.signatures) hnodup
    (fun w hw => signature_eq_none_iff.mp (hfree w hw)) I.patterns.size
  have hkeys : (key.toList.foldl (fun m k => m.insertIfNew k I.patterns.size)
      I.fullPatterns).size = I.fullPatterns.size + key.isSome.toNat := by
    cases key with
    | none => rfl
    | some k => simp [Std.TreeMap.size_insertIfNew, fullPattern_eq_none_iff.mp (hkey k rfl)]
  simp only [stats, Array.size_push, hsignatures, hkeys]

end RuleIndex

/-! ## 2. What a rule asks for -/

namespace CompiledRule

variable {c : CompiledRule} {I J : RuleIndex}

theorem nodup_signaturesIn : (c.signaturesIn I).Nodup := by
  unfold signaturesIn
  split
  · exact List.nodup_nil
  · exact List.nodup_nil
  · exact nodup_eraseDups _

end CompiledRule

/-! ## 3. Outcomes -/

/-- The index has gained one pattern, under so many signatures and perhaps under a key, and under one
    of them at least. What led to a pattern before leads to it still, and all else leads to the new
    one. -/
structure RuleIndex.Gains (I J : RuleIndex) (id : PatternId) (n : Nat) (full : Bool) : Prop where
  last : id = I.stats.patterns
  stats : J.stats =
    { patterns := I.stats.patterns + 1
      signatures := I.stats.signatures + n
      fullPatterns := I.stats.fullPatterns + full.toNat }
  reached : 0 < n ∨ full = true
  kept : I.Extends J
  signature : ∀ w owner, J.signature w = some owner → I.signature w = some owner ∨ owner = id
  fullPattern : ∀ k owner, J.fullPattern k = some owner → I.fullPattern k = some owner ∨ owner = id

/-- What an outcome says of the index before it and the one behind it. -/
def Outcome.Reports (I J : RuleIndex) : Outcome → Prop
  | .indexed id n full => I.Gains J id n full
  | .shadowed => J = I

namespace CompiledRule

/-- **A compiled rule is filed as it says.** -/
theorem reports_place (c : CompiledRule) (I : RuleIndex) :
    (c.place I).1.Reports I (c.place I).2 := by
  rw [place_eq]
  unfold fileUnder
  split
  · rename_i id J hinsert
    obtain ⟨rfl, hfiled⟩ := RuleIndex.insert_filed hinsert
    have hstats := RuleIndex.stats_of_insert hinsert nodup_signaturesIn
      (fun w => signature_of_mem_signaturesIn) (fun k => fullPattern_of_keyIn hfiled)
    refine ⟨rfl, hstats, ?reached, hfiled.extends, fun w owner hw => ?signature,
      fun k owner hk => ?fullPattern⟩
    case reached =>
      rcases hfiled.free with ⟨w, hw, -⟩ | ⟨k, hk, -⟩
      · exact Or.inl (List.length_pos_of_mem hw)
      · exact Or.inr (by rw [hk]; rfl)
    case signature => exact (hfiled.signature_cases hw).imp_right fun hnew => hnew.2.2
    case fullPattern => exact (hfiled.fullPattern_cases hk).imp_right fun hnew => hnew.2.2
  · rfl

end CompiledRule

namespace RuleIndex

/-- **Every outcome says what has changed.** A rule that is filed is the last pattern of the index
    behind it; the signatures and the key that it counts are all that is new in the two maps, and
    they are not nothing; all other patterns and entries are as they were. A shadowed rule leaves the
    index alone. So does an error, also where the rule stands in a list; and whether there is one,
    and which, is a matter of the rule and not of the index. -/
theorem outcome_reports (I : RuleIndex) (r : Rule) :
    (∀ o J, I.compileRule r = .ok (o, J) → o.Reports I J) ∧
    (∀ e, I.compileRule r = .error e →
      I.after r = I ∧ ∀ (s : RuleSet) (number : Nat), (s.addRule number r).rules = s) ∧
    ∀ (J : RuleIndex) (e : CompileError),
      I.compileRule r = .error e ↔ J.compileRule r = .error e := by
  have herror : ∀ (K : RuleIndex) (e : CompileError),
      K.compileRule r = .error e ↔ r.compile = .error e := by
    intro K e
    unfold compileRule
    cases r.compile <;> simp [Except.map]
  refine ⟨fun o J h => ?_, fun e h => ⟨?_, fun s number => ?_⟩, fun J e => ?_⟩
  · obtain ⟨c, -, hplace⟩ := compileRule_eq_ok.mp h
    have hreports := c.reports_place I
    rwa [hplace] at hreports
  · rw [after, h]
  · exact (RuleSet.addRule_of_error number ((herror I e).mp h)).1
  · rw [herror, herror]

/-- A rule all windows of which are the same, and one that is no regular expression. -/
def repeatedRule : Rule := ⟨"aaaaaaaaaaaa".toList, [], .uri⟩
def brokenRule : Rule := ⟨"/(/".toList, [], .uri⟩

/-- The one is filed under a single signature, and shadowed after that; the other changes
    nothing. -/
theorem outcome_reports_repeated : ∃ J, compileRule {} repeatedRule = .ok (.indexed 0 1 false, J) ∧
    J.stats = ⟨1, 1, 0⟩ ∧ J.compileRule repeatedRule = .ok (.shadowed, J) ∧
    J.compileRule brokenRule = .error (.invalidRegex "(".toList .malformed) ∧
    J.after brokenRule = J := by
  obtain ⟨J, hfirst⟩ := exists_compileRule (show (compileRule {} repeatedRule).toOption.map
    Prod.fst = some (.indexed 0 1 false) by decide +kernel)
  have hafter : RuleIndex.after {} repeatedRule = J := by rw [after, hfirst]
  obtain ⟨K, hsecond⟩ := exists_compileRule (show ((RuleIndex.after {} repeatedRule).compileRule
    repeatedRule).toOption.map Prod.fst = some .shadowed by decide +kernel)
  rw [hafter] at hsecond
  have hbroken : compileRule {} brokenRule = .error (.invalidRegex "(".toList .malformed) := by
    rw [compileRule, show brokenRule.compile = .error (.invalidRegex "(".toList .malformed) by
      decide +kernel]
    rfl
  obtain ⟨hfiled, -⟩ := outcome_reports {} repeatedRule
  have hgains : RuleIndex.Gains {} J 0 1 false := hfiled _ J hfirst
  have hshadowed : K = J := (outcome_reports J repeatedRule).1 _ K hsecond
  have herror := ((outcome_reports {} brokenRule).2.2 J _).mp hbroken
  exact ⟨J, hfirst, hgains.stats, hshadowed ▸ hsecond, herror,
    ((outcome_reports J brokenRule).2.1 _ herror).1⟩

end RuleIndex

end RequestFilter
