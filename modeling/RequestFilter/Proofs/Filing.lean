import Mathlib.Data.List.Induction
import RequestFilter.Rule

/-!
# Filing a pattern

What an insertion into the index, and with it the compilation of a rule, can do.

* `CompiledRule.freeWindows`, `hasWildcardWindow`: what a rule looks for among the windows of its
  text; `survey_eq`: **the survey of the windows finds just that**, `needsFullPattern_eq`;
* `RuleIndex.Filed`: a pattern came in under signatures and perhaps a key, of which it got those
  that were free; `insert_filed` is the only way an insertion succeeds;
* `CompiledRule.place_cases`: a compiled rule is filed or leaves the index alone, and
  `compileRule_cases` says the same of a rule; `signature_of_mem_signaturesIn`,
  `fullPattern_of_keyIn`: one that is filed has asked for nothing that is taken;
* `RuleIndex.Extends`: everything that led to a pattern still leads to it; `Filed.extends`;
* `RuleIndex.WellFormed`: every entry points at a pattern; `Filed.wellFormed`.
-/

namespace RequestFilter

/-- Registering keys one after the other keeps what is there and adds the others. -/
theorem TextMap.getElem?_foldl_insertIfNew {α : Type} (m : TextMap α) (keys : List Text) (k : Text)
    (value : α) : (keys.foldl (fun m s => m.insertIfNew s value) m)[k]? =
      m[k]?.or (if k ∈ keys then some value else none) := by
  induction keys generalizing m with
  | nil => simp
  | cons key keys ih =>
    rw [List.foldl_cons, ih, TextMap.getElem?_insertIfNew, Option.or_assoc]
    by_cases h : key = k
    · subst h
      simp
    · have hmem : k ∈ key :: keys ↔ k ∈ keys := by
        simp [Ne.symm h]
      simp only [h, if_false, Option.none_or, hmem]

/-- What is computed from a result shows that there is one. -/
theorem exists_ok_of_map {ε α β : Type} {result : Except ε α} {f : α → β} {b : β}
    (h : result.toOption.map f = some b) : ∃ a, result = .ok a ∧ f a = b := by
  cases result with
  | error e => simp [Except.toOption] at h
  | ok a => exact ⟨a, rfl, Option.some.inj h⟩

/-! ## 1. Windows -/

namespace CompiledRule

/-- The windows of a text without a wildcard in them. -/
def plainWindows (raw : Text) : List Text :=
  (Signature.windows raw).filter fun w => !w.contains '*'

/-- The plain windows that no pattern has registered yet, each once. -/
def freeWindows (index : RuleIndex) (raw : Text) : List Text :=
  ((plainWindows raw).filter (!index.hasSignature ·)).eraseDups

/-- Some window starts with a wildcard. -/
def hasWildcardWindow (raw : Text) : Bool :=
  (Signature.windows raw).any fun w => w.head? == some '*'

theorem eraseDups_concat (ws : List Text) (w : Text) : (ws ++ [w]).eraseDups =
    if w ∈ ws.eraseDups then ws.eraseDups else ws.eraseDups ++ [w] := by
  rw [List.eraseDups_append]
  by_cases hw : w ∈ ws
  · simp [hw, List.removeAll]
  · simp [hw, List.removeAll, List.eraseDups_cons]

section Survey

variable (index : RuleIndex) (raw : Text)

/-- What is known once some windows were looked at. -/
theorem foldl_look (ws : List Text) : ws.foldl (Survey.look index raw) {} =
    { usable := (ws.filter fun w => !w.contains '*').length
      signatures := ((ws.filter fun w => !w.contains '*').filter (!index.hasSignature ·)).eraseDups
      fullPattern := (ws.any fun w => w.head? == some '*') && !index.hasFullPattern raw } := by
  induction ws using List.reverseRecOn with
  | nil => rfl
  | append_singleton ws w ih =>
    rw [List.foldl_append, ih, List.foldl_cons, List.foldl_nil, Survey.look]
    simp only [List.filter_append, List.any_append]
    by_cases hwild : '*' ∈ w
    · -- the pattern map is asked for by the wildcards that stand in front
      cases hhead : w.head? == some '*' <;> cases hfull : index.hasFullPattern raw <;>
        simp [hwild, hhead]
    · have hhead : (w.head? == some '*') = false :=
        beq_eq_false_iff_ne.mpr fun h => hwild (List.mem_of_mem_head? h)
      cases hsig : index.hasSignature w <;> simp [hwild, hhead, hsig, eraseDups_concat]

/-- **The survey of a text finds its plain windows, those of them that are free, and whether there
    is a wildcard in front of one.** -/
theorem survey_eq : survey index raw =
    { usable := (plainWindows raw).length
      signatures := freeWindows index raw
      fullPattern := hasWildcardWindow raw && !index.hasFullPattern raw } :=
  foldl_look index raw (Signature.windows raw)

/-- The pattern map is to keep a text if it does not yet, and if the text has no plain window at all,
    or a wildcard and at most one window to register. -/
theorem needsFullPattern_eq : needsFullPattern index raw = (!index.hasFullPattern raw &&
    ((plainWindows raw).isEmpty ||
      (hasWildcardWindow raw && (freeWindows index raw).length ≤ 1))) := by
  simp only [needsFullPattern, survey_eq]
  by_cases hone : (freeWindows index raw).length ≤ 1
  · have hfew : ¬ 1 < (freeWindows index raw).length := Nat.not_lt.mpr hone
    cases hplain : plainWindows raw <;> simp [hone, hfew, Bool.and_comm]
  · -- where several windows are free there is a plain one
    have hmore : plainWindows raw ≠ [] := fun hnil => hone (by simp [freeWindows, hnil])
    simp [hone, Nat.lt_of_not_le hone, hmore]

end Survey

end CompiledRule

namespace RuleIndex

/-! ## 2. Lookups -/

/-- The pattern that the pattern map keeps under a key. -/
def fullPattern (index : RuleIndex) (key : Text) : Option PatternId := index.fullPatterns[key]?

theorem mem_patterns {index : RuleIndex} {id : PatternId} {p : Pattern}
    (h : index.pattern id = some p) : p ∈ index.patterns.toList :=
  Array.mem_toList_iff.mpr (Array.mem_of_getElem? h)

theorem hasSignature_eq (index : RuleIndex) (key : Text) :
    index.hasSignature key = (index.signature key).isSome :=
  Std.TreeMap.contains_eq_isSome_getElem?

theorem hasFullPattern_eq (index : RuleIndex) (key : Text) :
    index.hasFullPattern key = (index.fullPattern key).isSome :=
  Std.TreeMap.contains_eq_isSome_getElem?

theorem mem_fullPatternIds {index : RuleIndex} {id : PatternId} :
    id ∈ index.fullPatternIds ↔ ∃ key, index.fullPattern key = some id := by
  unfold fullPatternIds
  constructor
  · intro h
    obtain ⟨⟨key, value⟩, hmem, rfl⟩ := List.mem_map.mp h
    exact ⟨key, TextMap.mem_toList.mp hmem⟩
  · intro hx
    obtain ⟨key, h⟩ := hx
    exact List.mem_map.mpr ⟨(key, id), TextMap.mem_toList.mpr h, rfl⟩

theorem mem_freeWindows {index : RuleIndex} {raw w : Text} :
    w ∈ CompiledRule.freeWindows index raw ↔
      (w ∈ Signature.windows raw ∧ '*' ∉ w) ∧ index.signature w = none := by
  simp only [CompiledRule.freeWindows, CompiledRule.plainWindows, List.mem_eraseDups,
    List.mem_filter, hasSignature_eq, Bool.not_eq_true', Option.isSome_eq_false_iff,
    Option.isNone_iff_eq_none, List.contains_eq_mem, decide_eq_false_iff_not]

/-! ## 3. Insertion -/

/-- The pattern came in under the signatures and the key that were free, and at least one was. -/
structure Filed (I J : RuleIndex) (p : Pattern) (signatures : List Text) (key : Option Text) :
    Prop where
  patterns : J.patterns = I.patterns.push p
  signature : ∀ s, J.signature s =
    (I.signature s).or (if s ∈ signatures then some I.patterns.size else none)
  fullPattern : ∀ k, J.fullPattern k =
    (I.fullPattern k).or (if key = some k then some I.patterns.size else none)
  free : (∃ s ∈ signatures, I.signature s = none) ∨ ∃ k, key = some k ∧ I.fullPattern k = none

/-- Asking only for what is free gives the same as asking for everything. -/
theorem or_if_free {α : Type} {old : Option α} {P Q : Prop} [Decidable P] [Decidable Q] {value : α}
    (h : old = none → (P ↔ Q)) :
    old.or (if P then some value else none) = old.or (if Q then some value else none) := by
  cases old with
  | some a => rfl
  | none => simp only [h rfl]

/-- **An insertion that succeeds files the pattern behind all others.** -/
theorem insert_filed {I J : RuleIndex} {p : Pattern} {signatures : List Text} {key : Option Text}
    {id : PatternId} (h : I.insert p signatures key = some (id, J)) :
    id = I.patterns.size ∧ Filed I J p signatures key := by
  unfold insert at h
  simp only at h
  split at h
  · cases h
  · rename_i hfree
    simp only [Option.some.injEq, Prod.mk.injEq] at h
    obtain ⟨rfl, rfl⟩ := h
    refine ⟨rfl, rfl, fun s => ?_, fun k => ?_, ?_⟩
    · show (List.foldl _ I.signatures _)[s]? = _
      rw [TextMap.getElem?_foldl_insertIfNew]
      refine or_if_free fun hs => ?_
      have hs : I.signature s = none := hs
      simp [hasSignature_eq, hs]
    · show (List.foldl _ I.fullPatterns _)[k]? = _
      rw [TextMap.getElem?_foldl_insertIfNew]
      refine or_if_free fun hk => ?_
      have hk : I.fullPattern k = none := hk
      simp [Option.filter_eq_some_iff, hasFullPattern_eq, hk]
    · simp only [Bool.and_eq_true, not_and, List.isEmpty_iff, Option.isNone_iff_eq_none] at hfree
      by_cases hs : signatures.filter (!I.hasSignature ·) = []
      · obtain ⟨k, hk⟩ := Option.ne_none_iff_exists'.mp (hfree hs)
        obtain ⟨hkey, hfull⟩ := Option.filter_eq_some_iff.mp hk
        refine Or.inr ⟨k, hkey, ?_⟩
        rw [hasFullPattern_eq] at hfull
        simpa using hfull
      · obtain ⟨s, hmem⟩ := List.exists_mem_of_ne_nil _ hs
        obtain ⟨hsig, hnone⟩ := List.mem_filter.mp hmem
        exact Or.inl ⟨s, hsig, by simpa [hasSignature_eq] using hnone⟩

end RuleIndex

/-! ## 4. Placement -/

namespace CompiledRule

/-- The signatures a compiled rule asks for. -/
def signaturesIn (c : CompiledRule) (index : RuleIndex) : List Text :=
  match c.placement with
  | .literal _ => []
  | .regexText => []
  | .signatures => freeWindows index c.pattern.raw

/-- The key of the pattern map a compiled rule asks for. -/
def keyIn (c : CompiledRule) (index : RuleIndex) : Option Text :=
  match c.placement with
  | .literal line => some line
  | .regexText => some c.pattern.raw
  | .signatures => if needsFullPattern index c.pattern.raw then some c.pattern.raw else none

theorem place_eq (c : CompiledRule) (index : RuleIndex) :
    c.place index = fileUnder index c.pattern (c.signaturesIn index) (c.keyIn index) := by
  unfold place signaturesIn keyIn
  simp only [survey_eq]
  cases c.placement <;> rfl

/-- **A compiled rule is filed, or shadowed and leaves the index alone.** -/
theorem place_cases {c : CompiledRule} {I J : RuleIndex} {o : Outcome} (h : c.place I = (o, J)) :
    (o = .indexed I.patterns.size (c.signaturesIn I).length (c.keyIn I).isSome ∧
      I.Filed J c.pattern (c.signaturesIn I) (c.keyIn I)) ∨ (o = .shadowed ∧ J = I) := by
  rw [place_eq] at h
  unfold fileUnder at h
  split at h
  · rename_i id next hinsert
    simp only [Prod.mk.injEq] at h
    obtain ⟨rfl, rfl⟩ := h
    obtain ⟨rfl, hfiled⟩ := RuleIndex.insert_filed hinsert
    exact Or.inl ⟨rfl, hfiled⟩
  · simp only [Prod.mk.injEq] at h
    exact Or.inr ⟨h.1.symm, h.2.symm⟩

variable {c : CompiledRule} {I J : RuleIndex}

/-- A rule asks for no signature that is taken. -/
theorem signature_of_mem_signaturesIn {w : Text} (h : w ∈ c.signaturesIn I) :
    I.signature w = none := by
  unfold signaturesIn at h
  split at h
  · cases h
  · cases h
  · exact (RuleIndex.mem_freeWindows.mp h).2

/-- The key was free: where a rule asks for nothing else it would not have been filed, and where it
    asks for windows it asks only for a free key. -/
theorem fullPattern_of_keyIn (h : I.Filed J c.pattern (c.signaturesIn I) (c.keyIn I)) {k : Text}
    (hk : c.keyIn I = some k) : I.fullPattern k = none := by
  have hfree := h.free
  rw [hk] at hfree
  unfold signaturesIn keyIn at *
  cases hplace : c.placement with
  | signatures =>
    simp only [hplace, Option.ite_none_right_eq_some, Option.some.injEq, needsFullPattern_eq,
      Bool.and_eq_true, RuleIndex.hasFullPattern_eq] at hk
    obtain ⟨⟨hnot, -⟩, rfl⟩ := hk
    simpa using hnot
  | literal line => simpa [hplace] using hfree
  | regexText => simpa [hplace] using hfree

end CompiledRule

namespace RuleIndex

theorem compileRule_eq_ok {I J : RuleIndex} {r : Rule} {o : Outcome} :
    I.compileRule r = .ok (o, J) ↔ ∃ c, r.compile = .ok c ∧ c.place I = (o, J) := by
  unfold compileRule
  cases r.compile with
  | error e => simp [Except.map]
  | ok c => simp [Except.map]

/-- An outcome comes with an index. -/
theorem exists_compileRule {I : RuleIndex} {r : Rule} {o : Outcome}
    (h : (I.compileRule r).toOption.map Prod.fst = some o) : ∃ J, I.compileRule r = .ok (o, J) := by
  obtain ⟨⟨_, J⟩, hr, rfl⟩ := exists_ok_of_map h
  exact ⟨J, hr⟩

/-- **A rule that compiles is filed, or shadowed and leaves the index alone.** -/
theorem compileRule_cases {I J : RuleIndex} {r : Rule} {o : Outcome}
    (h : I.compileRule r = .ok (o, J)) :
    ∃ c, r.compile = .ok c ∧
      ((o = .indexed I.patterns.size (c.signaturesIn I).length (c.keyIn I).isSome ∧
        I.Filed J c.pattern (c.signaturesIn I) (c.keyIn I)) ∨ (o = .shadowed ∧ J = I)) := by
  obtain ⟨c, hc, hplace⟩ := compileRule_eq_ok.mp h
  exact ⟨c, hc, CompiledRule.place_cases hplace⟩

/-- A rule that counts as indexed was filed. -/
theorem compileRule_indexed {I J : RuleIndex} {r : Rule} {id : PatternId} {n : Nat} {full : Bool}
    (h : I.compileRule r = .ok (.indexed id n full, J)) :
    ∃ c, r.compile = .ok c ∧ id = I.patterns.size ∧ full = (c.keyIn I).isSome ∧
      I.Filed J c.pattern (c.signaturesIn I) (c.keyIn I) := by
  obtain ⟨c, hc, ⟨ho, hfiled⟩ | ⟨ho, -⟩⟩ := compileRule_cases h
  · simp only [Outcome.indexed.injEq] at ho
    exact ⟨c, hc, ho.1, ho.2.2, hfiled⟩
  · cases ho

/-! ## 5. What a filing keeps -/

/-- Everything that led to a pattern leads to it still. -/
structure Extends (I J : RuleIndex) : Prop where
  pattern : ∀ id p, I.pattern id = some p → J.pattern id = some p
  signature : ∀ s id, I.signature s = some id → J.signature s = some id
  fullPattern : ∀ k id, I.fullPattern k = some id → J.fullPattern k = some id

theorem Extends.refl (I : RuleIndex) : Extends I I :=
  ⟨fun _ _ h => h, fun _ _ h => h, fun _ _ h => h⟩

theorem Extends.trans {I J K : RuleIndex} (h : Extends I J) (h' : Extends J K) : Extends I K :=
  ⟨fun id p hp => h'.pattern id p (h.pattern id p hp),
   fun s id hs => h'.signature s id (h.signature s id hs),
   fun k id hk => h'.fullPattern k id (h.fullPattern k id hk)⟩

/-- Every entry of the two maps points at a pattern. -/
structure WellFormed (I : RuleIndex) : Prop where
  signature : ∀ s id, I.signature s = some id → id < I.patterns.size
  fullPattern : ∀ k id, I.fullPattern k = some id → id < I.patterns.size

theorem wellFormed_empty : WellFormed {} where
  signature s id h := by simp [RuleIndex.signature] at h
  fullPattern k id h := by simp [RuleIndex.fullPattern] at h

section Filed

variable {I J : RuleIndex} {p : Pattern} {signatures : List Text} {key : Option Text}

/-- The pattern that was filed. -/
theorem Filed.pattern_self (h : Filed I J p signatures key) :
    J.pattern I.patterns.size = some p := by
  rw [RuleIndex.pattern, h.patterns, Array.getElem?_push_size]

/-- The other patterns stay as they are. -/
theorem Filed.pattern_lt (h : Filed I J p signatures key) {id : PatternId}
    (hid : id < I.patterns.size) : J.pattern id = I.pattern id := by
  rw [RuleIndex.pattern, h.patterns, Array.getElem?_push_lt hid, RuleIndex.pattern,
    Array.getElem?_eq_getElem hid]

theorem Filed.extends (h : Filed I J p signatures key) : Extends I J where
  pattern id q hq := by
    obtain ⟨hid, -⟩ := Array.getElem?_eq_some_iff.mp hq
    rw [h.pattern_lt hid, hq]
  signature s id hs := by rw [h.signature, hs, Option.some_or]
  fullPattern k id hk := by rw [h.fullPattern, hk, Option.some_or]

/-- A pattern was there before, or is the one that was filed. -/
theorem Filed.pattern_cases (h : Filed I J p signatures key) {id : PatternId} {q : Pattern}
    (hq : J.pattern id = some q) : I.pattern id = some q ∨ (id = I.patterns.size ∧ q = p) := by
  rw [RuleIndex.pattern, h.patterns, Array.getElem?_push] at hq
  split at hq
  · rename_i hid
    exact Or.inr ⟨hid, (Option.some.inj hq).symm⟩
  · exact Or.inl hq

/-- A signature leads to the pattern it led to before, or to the new one. -/
theorem Filed.signature_cases (h : Filed I J p signatures key) {s : Text} {id : PatternId}
    (hs : J.signature s = some id) :
    I.signature s = some id ∨ (I.signature s = none ∧ s ∈ signatures ∧ id = I.patterns.size) := by
  rw [h.signature] at hs
  rcases Option.or_eq_some_iff.mp hs with hold | ⟨hnone, hnew⟩
  · exact Or.inl hold
  · split at hnew
    · rename_i hmem
      exact Or.inr ⟨hnone, hmem, (Option.some.inj hnew).symm⟩
    · cases hnew

/-- A key leads to the pattern it led to before, or to the new one. -/
theorem Filed.fullPattern_cases (h : Filed I J p signatures key) {k : Text} {id : PatternId}
    (hk : J.fullPattern k = some id) :
    I.fullPattern k = some id ∨
      (I.fullPattern k = none ∧ key = some k ∧ id = I.patterns.size) := by
  rw [h.fullPattern] at hk
  rcases Option.or_eq_some_iff.mp hk with hold | ⟨hnone, hnew⟩
  · exact Or.inl hold
  · split at hnew
    · rename_i hkey
      exact Or.inr ⟨hnone, hkey, (Option.some.inj hnew).symm⟩
    · cases hnew

theorem Filed.wellFormed (h : Filed I J p signatures key) (hI : WellFormed I) : WellFormed J where
  signature s id hs := by
    rw [h.patterns, Array.size_push]
    rcases h.signature_cases hs with hold | ⟨-, -, rfl⟩
    · exact Nat.lt_succ_of_lt (hI.signature s id hold)
    · exact Nat.lt_succ_self _
  fullPattern k id hk := by
    rw [h.patterns, Array.size_push]
    rcases h.fullPattern_cases hk with hold | ⟨-, -, rfl⟩
    · exact Nat.lt_succ_of_lt (hI.fullPattern k id hold)
    · exact Nat.lt_succ_self _

end Filed

end RuleIndex

end RequestFilter
