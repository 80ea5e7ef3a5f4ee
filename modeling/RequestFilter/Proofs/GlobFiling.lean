import Mathlib.Data.Finset.Card
import RequestFilter.Proofs.GlobRules
import RequestFilter.Proofs.Outcomes

/-!
# What a glob is filed under

A glob is filed under those windows of its text that are free and have no wildcard in them. It gets
a key of the pattern map where it has no such window, or where a wildcard stands in front of a window
and hardly anything was free.

* `Signature.IsPlain`: a window without a wildcard; `CompiledRule.length_freeWindows_le_one`: no two
  of them are free;
* `CompiledRule.signature_place`, `CompiledRule.fullPattern_place`: **what leads where behind a
  compiled rule**, filed or shadowed;
* `RuleIndex.NewSignature`, `RuleIndex.NewKey`: what leads to a pattern now and led nowhere before;
* `RuleIndex.glob_covered`: **all plain windows of a glob are taken behind it, and it is told by its
  windows alone which of them are new, and whether its key is**.

NOT here: which requests a glob is found for (`Proofs/WildcardRules.lean`).
-/

namespace RequestFilter

/-! ## 1. Plain windows -/

/-- The stretch is a window of the text, without a wildcard in it. -/
def Signature.IsPlain (text w : Text) : Prop := w <:+: text ∧ w.byteSize = Signature.size ∧ '*' ∉ w

/-- No two different plain windows of the text are free. -/
def RuleIndex.AtMostOneFree (I : RuleIndex) (text : Text) : Prop :=
  ∀ v w, Signature.IsPlain text v → I.signature v = none →
    Signature.IsPlain text w → I.signature w = none → v = w

namespace CompiledRule

variable {I J : RuleIndex} {c : CompiledRule} {text w : Text}

theorem mem_plainWindows : w ∈ plainWindows text ↔ Signature.IsPlain text w := by
  simp [plainWindows, Signature.mem_windows, Signature.IsPlain, and_assoc]

theorem plainWindows_isEmpty : (plainWindows text).isEmpty = true ↔
    ∀ w, ¬ Signature.IsPlain text w := by
  simp only [List.isEmpty_iff, List.eq_nil_iff_forall_not_mem, mem_plainWindows]

theorem hasWildcardWindow_iff : hasWildcardWindow text = true ↔
    ∃ w : Text, w <:+: text ∧ w.byteSize = Signature.size ∧ w.head? = some '*' := by
  simp [hasWildcardWindow, Signature.mem_windows, and_assoc]

theorem mem_freeWindows_iff : w ∈ freeWindows I text ↔
    Signature.IsPlain text w ∧ I.signature w = none := by
  simp [freeWindows, mem_plainWindows, RuleIndex.hasSignature_eq]

/-- Free windows are counted once each, so there is at most one if no two differ. -/
theorem length_freeWindows_le_one :
    (freeWindows I text).length ≤ 1 ↔ I.AtMostOneFree text := by
  have hnodup : (freeWindows I text).Nodup := nodup_eraseDups _
  rw [← List.toFinset_card_of_nodup hnodup, Finset.card_le_one]
  simp only [List.mem_toFinset, mem_freeWindows_iff]
  exact ⟨fun h v w hv hfv hw hfw => h v ⟨hv, hfv⟩ w ⟨hw, hfw⟩,
    fun h v hv w hw => h v w hv.1 hv.2 hw.1 hw.2⟩

theorem needsFullPattern_iff : needsFullPattern I text = true ↔ I.fullPattern text = none ∧
    ((∀ w, ¬ Signature.IsPlain text w) ∨
      ((∃ w : Text, w <:+: text ∧ w.byteSize = Signature.size ∧ w.head? = some '*') ∧
        I.AtMostOneFree text)) := by
  rw [needsFullPattern_eq, Bool.and_eq_true, Bool.or_eq_true, Bool.and_eq_true, decide_eq_true_iff,
    plainWindows_isEmpty, hasWildcardWindow_iff, length_freeWindows_le_one,
    RuleIndex.hasFullPattern_eq]
  simp

/-! ## 2. Behind a rule -/

/-- A signature leads where it led before, or to the new pattern if the rule asks for it. -/
theorem signature_place {o : Outcome} (h : c.place I = (o, J)) (w : Text) :
    J.signature w =
      (I.signature w).or (if w ∈ c.signaturesIn I then some I.patterns.size else none) := by
  rcases place_cases h with ⟨-, hfiled⟩ | ⟨-, rfl⟩
  · exact hfiled.signature w
  · -- behind a rule it is covered, and a shadowed one changes nothing
    rw [(covered_of_place h).signaturesIn_eq_nil, if_neg List.not_mem_nil, Option.or_none]

/-- A key leads where it led before, or to the new pattern if the rule asks for it. -/
theorem fullPattern_place {o : Outcome} (h : c.place I = (o, J)) (k : Text) :
    J.fullPattern k =
      (I.fullPattern k).or (if c.keyIn I = some k then some I.patterns.size else none) := by
  rcases place_cases h with ⟨-, hfiled⟩ | ⟨-, rfl⟩
  · exact hfiled.fullPattern k
  · by_cases hkey : c.keyIn J = some k
    · have htaken := (taken_of_place h).2 k hkey
      rw [RuleIndex.hasFullPattern_eq, Option.isSome_iff_exists] at htaken
      obtain ⟨id, hid⟩ := htaken
      rw [hid, Option.some_or]
    · rw [if_neg hkey, Option.or_none]

end CompiledRule

namespace RuleIndex

/-- The signature leads to the pattern behind a change, and led nowhere before. -/
def NewSignature (I J : RuleIndex) (w : Text) (id : PatternId) : Prop :=
  I.signature w = none ∧ J.signature w = some id

/-- The key leads to the pattern behind a change, and led nowhere before. -/
def NewKey (I J : RuleIndex) (k : Text) (id : PatternId) : Prop :=
  I.fullPattern k = none ∧ J.fullPattern k = some id

section Place

variable {I J : RuleIndex} {c : CompiledRule} {o : Outcome}

/-- The new signatures are those that the rule asks for. -/
theorem newSignature_iff (h : c.place I = (o, J)) {w : Text} {id : PatternId} :
    NewSignature I J w id ↔ w ∈ c.signaturesIn I ∧ id = I.patterns.size := by
  rw [NewSignature, CompiledRule.signature_place h]
  constructor
  · rintro ⟨hnone, hsome⟩
    rw [hnone, Option.none_or] at hsome
    simpa [eq_comm] using hsome
  · rintro ⟨hw, rfl⟩
    have hnone := CompiledRule.signature_of_mem_signaturesIn hw
    exact ⟨hnone, by rw [hnone, Option.none_or, if_pos hw]⟩

/-- The new key is the one that the rule asks for, if it is free. -/
theorem newKey_iff (h : c.place I = (o, J)) {k : Text} {id : PatternId} :
    NewKey I J k id ↔ I.fullPattern k = none ∧ c.keyIn I = some k ∧ id = I.patterns.size := by
  rw [NewKey, CompiledRule.fullPattern_place h]
  refine and_congr_right fun hnone => ?_
  rw [hnone, Option.none_or]
  simp [eq_comm]

/-- What leads somewhere new leads to the pattern of the rule, which was filed. -/
theorem pattern_of_new (h : c.place I = (o, J)) {id : PatternId}
    (hnew : (∃ w, NewSignature I J w id) ∨ ∃ k, NewKey I J k id) :
    (∃ n full, o = .indexed id n full) ∧ J.pattern id = some c.pattern := by
  rcases CompiledRule.place_cases h with ⟨rfl, hfiled⟩ | ⟨-, rfl⟩
  · have hid : id = I.patterns.size := by
      rcases hnew with ⟨w, hw⟩ | ⟨k, hk⟩
      · exact ((newSignature_iff h).mp hw).2
      · exact ((newKey_iff h).mp hk).2.2
    subst hid
    exact ⟨⟨_, _, rfl⟩, hfiled.pattern_self⟩
  · -- behind a shadowed rule nothing is new
    rcases hnew with ⟨w, hnone, hsome⟩ | ⟨k, hnone, hsome⟩
    · exact absurd (hnone.symm.trans hsome) nofun
    · exact absurd (hnone.symm.trans hsome) nofun

end Place

/-! ## 3. Globs -/

section Glob

variable {I J : RuleIndex} {c : CompiledRule} {o : Outcome} {w k : Text}
variable (hplacement : c.placement = .signatures) (hplace : c.place I = (o, J))

include hplacement hplace

/-- The new signatures of a glob are its plain windows that were free. -/
theorem exists_newSignature_iff : (∃ id, NewSignature I J w id) ↔
    Signature.IsPlain c.pattern.raw w ∧ I.signature w = none := by
  have hasks : c.signaturesIn I = CompiledRule.freeWindows I c.pattern.raw := by
    rw [CompiledRule.signaturesIn, hplacement]
  simp only [newSignature_iff hplace, hasks, CompiledRule.mem_freeWindows_iff, exists_and_left,
    exists_eq, and_true]

/-- The new key of a glob is its text, if it needs it. -/
theorem exists_newKey_iff : (∃ id, NewKey I J k id) ↔
    k = c.pattern.raw ∧ CompiledRule.needsFullPattern I k = true := by
  have hasks : c.keyIn I = some k ↔
      k = c.pattern.raw ∧ CompiledRule.needsFullPattern I c.pattern.raw = true := by
    simp only [CompiledRule.keyIn, hplacement, Option.ite_none_right_eq_some, Option.some.injEq]
    rw [and_comm, eq_comm]
  simp only [newKey_iff hplace, hasks, exists_and_left, exists_eq, and_true]
  constructor
  · rintro ⟨-, rfl, hneeds⟩
    exact ⟨rfl, hneeds⟩
  · rintro ⟨rfl, hneeds⟩
    exact ⟨(CompiledRule.needsFullPattern_iff.mp hneeds).1, rfl, hneeds⟩

/-- Behind a glob all its plain windows are taken. -/
theorem exists_signature_of_isPlain (hw : Signature.IsPlain c.pattern.raw w) :
    ∃ id, J.signature w = some id := by
  have hslot : w ∈ c.slots := by
    rw [CompiledRule.slots, hplacement]
    exact CompiledRule.mem_plainWindows.mpr hw
  have htaken := (CompiledRule.covered_of_place hplace).signature w hslot
  rwa [hasSignature_eq, Option.isSome_iff_exists] at htaken

/-- Behind a glob without plain windows its text is a key. -/
theorem exists_fullPattern_of_short (hshort : ∀ w, ¬ Signature.IsPlain c.pattern.raw w) :
    ∃ id, J.fullPattern c.pattern.raw = some id := by
  have hnil : c.slots = [] := by
    rw [CompiledRule.slots, hplacement, ← List.isEmpty_iff]
    exact CompiledRule.plainWindows_isEmpty.mpr hshort
  have htaken := (CompiledRule.covered_of_place hplace).fullPattern hnil
  rwa [CompiledRule.key, hplacement, hasFullPattern_eq, Option.isSome_iff_exists] at htaken

/-- A glob without plain windows brings no signature. -/
theorem signature_of_short (hshort : ∀ w, ¬ Signature.IsPlain c.pattern.raw w) (w : Text) :
    J.signature w = I.signature w := by
  have hnot : w ∉ c.signaturesIn I := by
    intro hw
    have hnew := (newSignature_iff hplace).mpr ⟨hw, rfl⟩
    exact hshort w ((exists_newSignature_iff hplacement hplace).mp ⟨_, hnew⟩).1
  rw [CompiledRule.signature_place hplace, if_neg hnot, Option.or_none]

end Glob

/-- **What a glob is filed under.** Behind a glob every plain window of its text leads to some
    pattern. If it has none, its text is a key of the pattern map and no signature is new. The text
    becomes a key, and nothing else does, exactly if it was none and either it has no plain window or
    a wildcard stands in front of one of its windows while no two of its plain windows were free. The
    new signatures are the plain windows that were free. All that is new leads to the pattern that
    was filed, which has this text. -/
theorem glob_covered {I J : RuleIndex} {r : Rule} {o : Outcome}
    (h : I.compileRule r = .ok (o, J)) (hliteral : r.kind = .uri → Rule.regexLiteral? r.body = none)
    (hglob : Rule.isRegexText r.globText = false) :
    (∀ w, Signature.IsPlain r.globText w → ∃ id, J.signature w = some id) ∧
    ((∀ w, ¬ Signature.IsPlain r.globText w) →
      (∃ id, J.fullPattern r.globText = some id) ∧ ∀ w, J.signature w = I.signature w) ∧
    (∀ k, (∃ id, NewKey I J k id) ↔ k = r.globText ∧ I.fullPattern k = none ∧
      ((∀ w, ¬ Signature.IsPlain k w) ∨
        ((∃ w : Text, w <:+: k ∧ w.byteSize = 8 ∧ w.head? = some '*') ∧ I.AtMostOneFree k))) ∧
    (∀ w, (∃ id, NewSignature I J w id) ↔
      Signature.IsPlain r.globText w ∧ I.signature w = none) ∧
    ∀ id, ((∃ w, NewSignature I J w id) ∨ ∃ k, NewKey I J k id) →
      (∃ n full, o = .indexed id n full) ∧ ∃ p, J.pattern id = some p ∧ p.raw = r.globText := by
  obtain ⟨c, hc, hplace⟩ := compileRule_eq_ok.mp h
  obtain ⟨hraw, -, hplacement⟩ := Rule.compile_globText hliteral hc
  rw [← hraw] at hglob ⊢
  rw [hglob, if_neg Bool.false_ne_true] at hplacement
  refine ⟨fun w hw => exists_signature_of_isPlain hplacement hplace hw,
    fun hshort => ⟨exists_fullPattern_of_short hplacement hplace hshort,
      signature_of_short hplacement hplace hshort⟩,
    fun k => ?_, fun w => exists_newSignature_iff hplacement hplace, fun id hnew => ?_⟩
  · rw [exists_newKey_iff hplacement hplace, CompiledRule.needsFullPattern_iff]
    rfl
  · obtain ⟨hindexed, hpattern⟩ := pattern_of_new hplace hnew
    exact ⟨hindexed, c.pattern, hpattern, rfl⟩

/-- A literal that has all the plain windows of the rule for banners. -/
def serverRule : Rule := ⟨"bannerserver".toList, [], .uri⟩

/-- Behind the literal that rule finds its windows taken, and its text becomes a key. -/
theorem glob_covered_taken :
    let I := RuleIndex.after {} serverRule
    let text := "ad.*bannerserver".toList
    ∃ J, I.compileRule bannerRule = .ok (.indexed 1 0 true, J) ∧
      (bannerRule.kind = .uri → Rule.regexLiteral? bannerRule.body = none) ∧
      bannerRule.globText = text ∧ Rule.isRegexText text = false ∧
      (∃ id, J.signature "bannerse".toList = some id) ∧ NewKey I J text 1 ∧
      I.AtMostOneFree text ∧ ∃ p, J.pattern 1 = some p ∧ p.raw = text := by
  intro I text
  have hvalues : (I.compileRule bannerRule).toOption.map (fun result =>
      (result.1, I.fullPattern text, result.2.fullPattern text)) =
        some (.indexed 1 0 true, none, some 1) := by
    decide +kernel
  obtain ⟨⟨o, J⟩, hJ, hvalue⟩ := exists_ok_of_map hvalues
  obtain ⟨rfl, hbefore, hbehind⟩ : o = .indexed 1 0 true ∧ I.fullPattern text = none ∧
      J.fullPattern text = some 1 := by simpa using hvalue
  have hliteral : bannerRule.kind = .uri →
      Rule.regexLiteral? bannerRule.body = none := by decide
  have htext : bannerRule.globText = text := by decide
  have hglob : Rule.isRegexText bannerRule.globText = false := by decide
  have hplain : Signature.IsPlain text "bannerse".toList := by
    refine ⟨⟨"ad.*".toList, "rver".toList, rfl⟩, rfl, by decide⟩
  have hkey : NewKey I J text 1 := ⟨hbefore, hbehind⟩
  obtain ⟨hcovered, -, hkeys, -, hnew⟩ := glob_covered hJ hliteral hglob
  rw [htext] at hcovered hkeys hnew hglob
  obtain ⟨-, -, hnone | ⟨-, hfree⟩⟩ := (hkeys text).mp ⟨1, hkey⟩
  · exact absurd hplain (hnone _)
  · exact ⟨J, hJ, hliteral, htext, hglob, hcovered _ hplain, hkey, hfree,
      (hnew 1 (Or.inr ⟨text, hkey⟩)).2⟩

end RuleIndex

end RequestFilter
