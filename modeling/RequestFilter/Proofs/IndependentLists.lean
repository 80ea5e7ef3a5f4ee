import RequestFilter.Proofs.Refetch

/-!
# Lists that have nothing in common

Two lists that share no window and no key may be loaded in either order. The patterns come to stand
at other positions then, but nothing is filed under another pattern, and nothing is decided
otherwise.

* `RuleIndex.signatureOwner`, `RuleIndex.keyOwner`: an index without its positions; `SameOwners`:
  two indices that differ by them only, `SameOwners.answers_iff`;
* `signatureOwner_fileAll`, `keyOwner_fileAll`: **rules touch nothing but what they may be filed
  under**;
* `Alike`: two indices that some rules cannot tell apart; `Alike.fileAll`: **they stay so once the
  rules are filed, and the same of them are filed**;
* `Independent`: no rule of one list may be filed where one of the other may; `sameOwners_fileAll`:
  **the order of independent lists does not matter**;
* `result_loadLines_congr`: the counters of lines depend on nothing but which rules are filed;
* `Session.Receives`: a fetch ends that has stored a text; `RuleSet.loads_commute`: **the same in
  either order** -- of two loads, and of the ends of two fetches.

NOT here: element hiding, which keeps the order in which selectors came in.
-/

namespace RequestFilter

namespace RuleIndex

variable {I J : RuleIndex}

/-! ## 1. Owners -/

/-- The pattern that a signature leads to. -/
def signatureOwner (I : RuleIndex) (w : Text) : Option Pattern := (I.signature w).bind I.pattern

/-- The pattern that the pattern map keeps under a key. -/
def keyOwner (I : RuleIndex) (k : Text) : Option Pattern := (I.fullPattern k).bind I.pattern

/-- Where every entry points at a pattern, what is taken has an owner. -/
theorem WellFormed.isSome_signatureOwner (h : WellFormed I) (w : Text) :
    (I.signatureOwner w).isSome = I.hasSignature w := by
  rw [hasSignature_eq, signatureOwner]
  cases hw : I.signature w with
  | none => rfl
  | some id => simp [RuleIndex.pattern, h.signature w id hw]

theorem WellFormed.isSome_keyOwner (h : WellFormed I) (k : Text) :
    (I.keyOwner k).isSome = I.hasFullPattern k := by
  rw [hasFullPattern_eq, keyOwner]
  cases hk : I.fullPattern k with
  | none => rfl
  | some id => simp [RuleIndex.pattern, h.fullPattern k id hk]

/-- Everything leads to the same pattern, wherever this stands. -/
structure SameOwners (I J : RuleIndex) : Prop where
  signature : ∀ w, I.signatureOwner w = J.signatureOwner w
  fullPattern : ∀ k, I.keyOwner k = J.keyOwner k

/-- A block, said without positions. -/
theorem blocks_iff_owners {url : Text} {page : Option Text} : I.Blocks url page ↔
    ∃ p, ((∃ w ∈ Signature.windows (Glob.normalizeUrl url), I.signatureOwner w = some p) ∨
      ∃ k, I.keyOwner k = some p) ∧ (Matcher.check p url page).1 = true := by
  simp only [Blocks, LeadsTo, signatureOwner, keyOwner, Option.bind_eq_some_iff]
  constructor
  · intro hx
    obtain ⟨id, p, ⟨w, hw, hs⟩ | ⟨k, hk⟩, hp, hc⟩ := hx
    · exact ⟨p, Or.inl ⟨w, hw, id, hs, hp⟩, hc⟩
    · exact ⟨p, Or.inr ⟨k, id, hk, hp⟩, hc⟩
  · intro hx
    obtain ⟨p, ⟨w, hw, id, hs, hp⟩ | ⟨k, id, hk, hp⟩, hc⟩ := hx
    · exact ⟨id, p, Or.inl ⟨w, hw, hs⟩, hp, hc⟩
    · exact ⟨id, p, Or.inr ⟨k, hk⟩, hp, hc⟩

/-- **Positions do not show in an answer.** -/
theorem SameOwners.answers_iff (h : SameOwners I J) (r : Request) (blocked : Bool) :
    I.Answers r blocked ↔ J.Answers r blocked := by
  refine answers_congr ?_ blocked
  simp only [Stops, blocks_iff_owners, h.signature, h.fullPattern]

/-! ## 2. One rule -/

section Place

variable (hI : WellFormed I) (c : CompiledRule)

include hI

theorem wellFormed_of_place : WellFormed (c.place I).2 := by
  cases hplace : c.place I with
  | mk o J =>
    rcases CompiledRule.place_cases hplace with ⟨-, hfiled⟩ | ⟨-, rfl⟩
    · exact hfiled.wellFormed hI
    · exact hI

/-- A rule gets the signatures it asks for, and the others keep their owners. -/
theorem signatureOwner_place (w : Text) : (c.place I).2.signatureOwner w =
    if w ∈ c.signaturesIn I then some c.pattern else I.signatureOwner w := by
  cases hplace : c.place I with
  | mk o J =>
    rcases CompiledRule.place_cases hplace with ⟨-, hfiled⟩ | ⟨-, rfl⟩
    · rw [signatureOwner, hfiled.signature]
      by_cases hw : w ∈ c.signaturesIn I
      · rw [CompiledRule.signature_of_mem_signaturesIn hw, if_pos hw, if_pos hw]
        exact hfiled.pattern_self
      · rw [if_neg hw, if_neg hw, Option.or_none, signatureOwner]
        exact Option.bind_congr fun id hid => hfiled.pattern_lt (hI.signature w id hid)
    · -- behind a rule it is covered, and a shadowed one changes nothing
      rw [(CompiledRule.covered_of_place hplace).signaturesIn_eq_nil, if_neg List.not_mem_nil]

/-- A rule gets the key it asks for if it is free, and the others keep their owners. -/
theorem keyOwner_place (k : Text) : (c.place I).2.keyOwner k =
    (I.keyOwner k).or (if c.keyIn I = some k then some c.pattern else none) := by
  cases hplace : c.place I with
  | mk o J =>
    rcases CompiledRule.place_cases hplace with ⟨-, hfiled⟩ | ⟨-, rfl⟩
    · rw [keyOwner, hfiled.fullPattern, keyOwner]
      cases hk : I.fullPattern k with
      | none =>
        by_cases hkey : c.keyIn I = some k
        · simp [hkey, hfiled.pattern_self]
        · simp [hkey]
      | some id =>
        have hid := hI.fullPattern k id hk
        rw [Option.some_or, Option.bind_some, Option.bind_some, hfiled.pattern_lt hid]
        simp [RuleIndex.pattern, hid]
    · by_cases hkey : c.keyIn J = some k
      · have htaken := (CompiledRule.taken_of_place hplace).2 k hkey
        rw [← hI.isSome_keyOwner, Option.isSome_iff_exists] at htaken
        obtain ⟨p, hp⟩ := htaken
        rw [hp, Option.some_or]
      · rw [if_neg hkey, Option.or_none]

end Place

/-- A rule is filed exactly where something it asks for is free. -/
theorem isIndexed_place (c : CompiledRule) (I : RuleIndex) : (c.place I).1.isIndexed = true ↔
    (∃ w ∈ c.signaturesIn I, I.hasSignature w = false) ∨
      ∃ k, c.keyIn I = some k ∧ I.hasFullPattern k = false := by
  cases hplace : c.place I with
  | mk o J =>
    rcases CompiledRule.place_cases hplace with ⟨rfl, hfiled⟩ | ⟨rfl, rfl⟩
    · simp only [Outcome.isIndexed, true_iff]
      rcases hfiled.free with ⟨w, hw, hnone⟩ | ⟨k, hk, hnone⟩
      · exact Or.inl ⟨w, hw, by rw [hasSignature_eq, hnone]; rfl⟩
      · exact Or.inr ⟨k, hk, by rw [hasFullPattern_eq, hnone]; rfl⟩
    · obtain ⟨hsignatures, hkey⟩ := CompiledRule.taken_of_place hplace
      simp only [Outcome.isIndexed, Bool.false_eq_true, false_iff, not_or, not_exists, not_and,
        Bool.not_eq_false]
      exact ⟨hsignatures, hkey⟩

/-! ## 3. What rules touch -/

section Frame

variable {cs : List CompiledRule}

theorem wellFormed_fileAll (hI : WellFormed I) (cs : List CompiledRule) :
    WellFormed (I.fileAll cs).2 := by
  induction cs generalizing I with
  | nil => exact hI
  | cons c cs ih => exact ih (wellFormed_of_place hI c)

/-- What none of the rules changes is the same behind all of them. -/
theorem fileAll_keeps {α : Type} (view : RuleIndex → α) (hI : WellFormed I)
    (h : ∀ c ∈ cs, ∀ J, WellFormed J → view (c.place J).2 = view J) :
    view (I.fileAll cs).2 = view I := by
  induction cs generalizing I with
  | nil => rfl
  | cons c cs ih =>
    rw [fileAll_cons, ih (wellFormed_of_place hI c) fun d hd => h d (List.mem_cons_of_mem c hd)]
    exact h c List.mem_cons_self I hI

/-- **Rules leave a signature alone that none of them may be filed under.** -/
theorem signatureOwner_fileAll (hI : WellFormed I) {w : Text} (h : ∀ c ∈ cs, w ∉ c.slots) :
    (I.fileAll cs).2.signatureOwner w = I.signatureOwner w := by
  refine fileAll_keeps (·.signatureOwner w) hI fun c hc J hJ => ?_
  rw [signatureOwner_place hJ, if_neg fun hw => h c hc (CompiledRule.mem_signaturesIn.mp hw).1]

/-- **Rules leave a key alone that none of them may be filed under.** -/
theorem keyOwner_fileAll (hI : WellFormed I) {k : Text} (h : ∀ c ∈ cs, c.key ≠ k) :
    (I.fileAll cs).2.keyOwner k = I.keyOwner k := by
  refine fileAll_keeps (·.keyOwner k) hI fun c hc J hJ => ?_
  rw [keyOwner_place hJ, if_neg fun hk => h c hc (CompiledRule.eq_key_of_keyIn hk).symm,
    Option.or_none]

end Frame

/-! ## 4. What rules see -/

/-- The rules cannot tell the indices apart: everything they may be filed under has the same owner
    in both. -/
structure Alike (cs : List CompiledRule) (I J : RuleIndex) : Prop where
  left : WellFormed I
  right : WellFormed J
  signature : ∀ c ∈ cs, ∀ w ∈ c.slots, I.signatureOwner w = J.signatureOwner w
  fullPattern : ∀ c ∈ cs, I.keyOwner c.key = J.keyOwner c.key

section Alike

variable {c : CompiledRule} {cs ds : List CompiledRule}

theorem Alike.hasSignature (h : Alike cs I J) (hc : c ∈ cs) {w : Text} (hw : w ∈ c.slots) :
    I.hasSignature w = J.hasSignature w := by
  rw [← h.left.isSome_signatureOwner, ← h.right.isSome_signatureOwner, h.signature c hc w hw]

theorem Alike.hasFullPattern (h : Alike cs I J) (hc : c ∈ cs) :
    I.hasFullPattern c.key = J.hasFullPattern c.key := by
  rw [← h.left.isSome_keyOwner, ← h.right.isSome_keyOwner, h.fullPattern c hc]

/-- A rule asks both for the same. -/
theorem Alike.asks (h : Alike cs I J) (hc : c ∈ cs) :
    c.signaturesIn I = c.signaturesIn J ∧ c.keyIn I = c.keyIn J := by
  have hfull := h.hasFullPattern hc
  have hslots : ∀ w ∈ c.slots, I.hasSignature w = J.hasSignature w :=
    fun w hw => h.hasSignature hc hw
  unfold CompiledRule.signaturesIn CompiledRule.keyIn
  unfold CompiledRule.key at hfull
  unfold CompiledRule.slots at hslots
  cases hplace : c.placement with
  | literal line => exact ⟨rfl, rfl⟩
  | regexText => exact ⟨rfl, rfl⟩
  | signatures =>
    simp only [hplace] at hfull hslots ⊢
    have hfree : CompiledRule.freeWindows I c.pattern.raw =
        CompiledRule.freeWindows J c.pattern.raw := by
      unfold CompiledRule.freeWindows
      rw [List.filter_congr fun w hw => by rw [hslots w hw]]
    refine ⟨hfree, ?_⟩
    rw [CompiledRule.needsFullPattern_eq, CompiledRule.needsFullPattern_eq, hfree, hfull]

/-- One rule is filed in both or in neither, and behind it the others cannot tell them apart. -/
theorem Alike.place (h : Alike cs I J) (hc : c ∈ cs) :
    (c.place I).1.isIndexed = (c.place J).1.isIndexed ∧
      Alike cs (c.place I).2 (c.place J).2 := by
  obtain ⟨hsignatures, hkey⟩ := h.asks hc
  refine ⟨?_, wellFormed_of_place h.left c, wellFormed_of_place h.right c,
    fun d hd w hw => ?_, fun d hd => ?_⟩
  · rw [Bool.eq_iff_iff, isIndexed_place, isIndexed_place, hsignatures, hkey]
    refine or_congr (exists_congr fun w => and_congr_right fun hw => ?_)
      (exists_congr fun k => and_congr_right fun hk => ?_)
    · rw [h.hasSignature hc (CompiledRule.mem_signaturesIn.mp hw).1]
    · rw [CompiledRule.eq_key_of_keyIn hk, h.hasFullPattern hc]
  · rw [signatureOwner_place h.left, signatureOwner_place h.right, hsignatures,
      h.signature d hd w hw]
  · rw [keyOwner_place h.left, keyOwner_place h.right, hkey, h.fullPattern d hd]

/-- **Rules that cannot tell two indices apart are filed in both alike.** -/
theorem Alike.fileAll (h : Alike cs I J) (hds : ds ⊆ cs) :
    (I.fileAll ds).1.map Outcome.isIndexed = (J.fileAll ds).1.map Outcome.isIndexed ∧
      Alike cs (I.fileAll ds).2 (J.fileAll ds).2 := by
  induction ds generalizing I J with
  | nil => exact ⟨rfl, h⟩
  | cons d ds ih =>
    obtain ⟨hfirst, hbehind⟩ := h.place (hds List.mem_cons_self)
    obtain ⟨hrest, hend⟩ := ih hbehind (List.subset_of_cons_subset hds)
    rw [fileAll_cons, fileAll_cons, List.map_cons, List.map_cons, hfirst, hrest]
    exact ⟨rfl, hend⟩

end Alike

/-! ## 5. Independent rules -/

/-- No rule of one list may be filed where a rule of the other may be. -/
structure Independent (as bs : List CompiledRule) : Prop where
  signature : ∀ a ∈ as, ∀ b ∈ bs, ∀ w ∈ a.slots, w ∉ b.slots
  fullPattern : ∀ a ∈ as, ∀ b ∈ bs, a.key ≠ b.key

section Independent

variable {as bs : List CompiledRule}

theorem Independent.symm (h : Independent as bs) : Independent bs as where
  signature b hb a ha w hw hw' := h.signature a ha b hb w hw' hw
  fullPattern b hb a ha := (h.fullPattern a ha b hb).symm

/-- Looks every rule of one list up against every rule of the other. -/
def independent (as bs : List CompiledRule) : Bool :=
  as.all fun a => bs.all fun b => (a.slots.all fun w => !b.slots.contains w) && a.key != b.key

theorem independent_iff : independent as bs = true ↔ Independent as bs := by
  simp only [independent, List.all_eq_true, Bool.and_eq_true, Bool.not_eq_true',
    List.contains_eq_mem, decide_eq_false_iff_not, bne_iff_ne]
  exact ⟨fun h => ⟨fun a ha b hb => (h a ha b hb).1, fun a ha b hb => (h a ha b hb).2⟩,
    fun h a ha b hb => ⟨h.signature a ha b hb, h.fullPattern a ha b hb⟩⟩

instance (as bs : List CompiledRule) : Decidable (Independent as bs) :=
  decidable_of_iff _ independent_iff

/-- Rules do not see whether independent ones were filed. -/
theorem Independent.alike (h : Independent as bs) (hI : WellFormed I) :
    Alike as I (I.fileAll bs).2 where
  left := hI
  right := wellFormed_fileAll hI bs
  signature a ha w hw :=
    (signatureOwner_fileAll hI fun b hb => h.signature a ha b hb w hw).symm
  fullPattern a ha := (keyOwner_fileAll hI fun b hb => (h.fullPattern a ha b hb).symm).symm

/-- **The order of independent rules does not matter.** -/
theorem sameOwners_fileAll (h : Independent as bs) (hI : WellFormed I) :
    SameOwners ((I.fileAll as).2.fileAll bs).2 ((I.fileAll bs).2.fileAll as).2 := by
  have hA := ((h.alike hI).fileAll (List.Subset.refl as)).2
  have hB := ((h.symm.alike hI).fileAll (List.Subset.refl bs)).2
  -- what belongs to neither list stays as it was; what belongs to one is not touched by the other
  refine ⟨fun w => ?_, fun k => ?_⟩
  · by_cases ha : ∃ a ∈ as, w ∈ a.slots
    · obtain ⟨a, ha, hw⟩ := ha
      rw [signatureOwner_fileAll (wellFormed_fileAll hI as)
        fun b hb => h.signature a ha b hb w hw, hA.signature a ha w hw]
    · simp only [not_exists, not_and] at ha
      rw [signatureOwner_fileAll (wellFormed_fileAll hI bs) ha]
      by_cases hb : ∃ b ∈ bs, w ∈ b.slots
      · obtain ⟨b, hb, hw⟩ := hb
        exact (hB.signature b hb w hw).symm
      · simp only [not_exists, not_and] at hb
        rw [signatureOwner_fileAll (wellFormed_fileAll hI as) hb, signatureOwner_fileAll hI ha,
          signatureOwner_fileAll hI hb]
  · by_cases ha : ∃ a ∈ as, a.key = k
    · obtain ⟨a, ha, rfl⟩ := ha
      rw [keyOwner_fileAll (wellFormed_fileAll hI as)
        fun b hb => (h.fullPattern a ha b hb).symm, hA.fullPattern a ha]
    · simp only [not_exists, not_and] at ha
      rw [keyOwner_fileAll (wellFormed_fileAll hI bs) ha]
      by_cases hb : ∃ b ∈ bs, b.key = k
      · obtain ⟨b, hb, rfl⟩ := hb
        exact (hB.fullPattern b hb).symm
      · simp only [not_exists, not_and] at hb
        rw [keyOwner_fileAll (wellFormed_fileAll hI as) hb, keyOwner_fileAll hI ha,
          keyOwner_fileAll hI hb]

end Independent

end RuleIndex

/-! ## 6. Lists -/

/-- Whether a selector is refused does not depend on those that came before. -/
theorem ElementHiding.isSome_addGeneric? (h : ElementHiding) (selector : Text) :
    (h.addGeneric? selector).isSome = isValidSelector selector := by
  unfold addGeneric?
  split <;> simp_all

theorem ElementHiding.isSome_addPerDomain? (h : ElementHiding) (line separator : Text) :
    (h.addPerDomain? line separator).isSome = (Text.splitOnce separator line).any fun parts =>
      !(parts.2.isEmpty || !isValidSelector parts.2) := by
  unfold addPerDomain?
  cases hsplit : Text.splitOnce separator line with
  | none => rfl
  | some parts =>
    simp only [Option.bind_some, Option.any_some]
    cases hrefused : parts.2.isEmpty || !isValidSelector parts.2 <;> rfl

namespace RuleSet

section Results

variable {maxLine : Nat} (s t : RuleSet)

theorem result_addSelector (hider : Option ElementHiding) : (s.addSelector hider).result =
    if hider.isSome then .hiderAccepted else .hiderRejected := by
  cases hider <;> rfl

/-- What becomes of a line without a rule does not depend on what was loaded before. -/
theorem result_addLine_of_no_rule {line : Text} (h : ruleOn? maxLine line = none)
    (number : Nat) : (s.addLine maxLine number line).result =
      (t.addLine maxLine number line).result := by
  unfold addLine
  by_cases hlong : maxLine < line.byteSize
  · rw [if_pos hlong, if_pos hlong]
  rw [if_neg hlong, if_neg hlong]
  cases hkind : LineKind.classify line with
  | elementHider selector =>
    simp only [result_addSelector, ElementHiding.isSome_addGeneric?]
  | domainHider line separator =>
    simp only [result_addSelector, ElementHiding.isSome_addPerDomain?]
  | rule r =>
    cases hcompile : r.compile with
    | ok c =>
      rw [ruleOn?_eq_some.mpr ⟨hlong, r, hkind, hcompile⟩] at h
      cases h
    | error e => cases e <;> simp [addRule, hcompile]
  | _ => rfl

/-- **The counters of lines depend on nothing but which rules are filed.** -/
theorem result_loadLines_congr {lines : List Text} (number : Nat)
    (h : (s.index.fileAll (rulesOn maxLine lines)).1.map Outcome.isIndexed =
      (t.index.fileAll (rulesOn maxLine lines)).1.map Outcome.isIndexed) :
    (loadLines maxLine number s lines).result = (loadLines maxLine number t lines).result := by
  induction lines generalizing s t number with
  | nil => rfl
  | cons line lines ih =>
    simp only [rulesOn, List.filterMap_cons] at h
    cases hrule : ruleOn? maxLine (Text.trimEnd line) with
    | none =>
      rw [hrule] at h
      have hfirst := result_addLine_of_no_rule s t hrule number
      have hrest := ih (s.addLine maxLine number (Text.trimEnd line)).rules
        (t.addLine maxLine number (Text.trimEnd line)).rules (number + 1)
        (by rwa [(addLine_of_no_rule number hrule).1, (addLine_of_no_rule number hrule).1])
      simp only [loadLines, hfirst, hrest]
    | some c =>
      simp only [hrule, RuleIndex.fileAll_cons, List.map_cons, List.cons.injEq] at h
      obtain ⟨hs, hsresult⟩ := addLine_of_rule (s := s) number hrule
      obtain ⟨ht, htresult⟩ := addLine_of_rule (s := t) number hrule
      have hrest := ih (s.addLine maxLine number (Text.trimEnd line)).rules
        (t.addLine maxLine number (Text.trimEnd line)).rules (number + 1)
        (by rw [hs, ht]; exact h.2)
      simp only [loadLines, hsresult, htresult, LineResult.ofOutcome, h.1, hrest]

end Results

end RuleSet

namespace Session

/-! ## 7. The end of a fetch -/

/-- A text comes in: after some requests, while files and subscriptions may change, a fetch of this
    generation ends that has stored it, and its source is still subscribed to. -/
def Receives (t : Session) (text : Text) (u : Session) : Prop :=
  ∃ (ops : List Operation) (q : FetchRequest) (content : Bytes),
    (∀ op ∈ ops, op.forgets = false ∧ op.isCompletion = false) ∧
    q.generation = t.tester.generation ∧ q.sourceUrl ∈ (t.run ops).tester.filters ∧
    (t.run ops).files.read q.destination = .ok content ∧ Text.ofBytesLossy content = text ∧
    u = (t.run ops).completeFetch ⟨q, true⟩

theorem receives_completeFetch {t : Session} {q : FetchRequest} {content : Bytes}
    (hgeneration : q.generation = t.tester.generation) (hfilters : q.sourceUrl ∈ t.tester.filters)
    (hread : t.files.read q.destination = .ok content) :
    t.Receives (Text.ofBytesLossy content) (t.completeFetch ⟨q, true⟩) :=
  ⟨[], q, content, by simp, hgeneration, hfilters, hread, rfl, rfl⟩

/-- A text that comes in is loaded, and no more. -/
theorem Receives.fileAll {t u : Session} {text : Text} (h : t.Receives text u) :
    u.tester.config = t.tester.config ∧ u.index =
      (t.index.fileAll (RuleSet.rulesOf t.tester.config.maxLineLen.toNat text)).2 := by
  obtain ⟨ops, q, content, hquiet, hgeneration, hfilters, hread, rfl, rfl⟩ := h
  have hconfig := config_run t ops
  have hgenerationKept := generation_run (s := t) fun op hop => (hquiet op hop).1
  have hindex : (t.run ops).index = t.index := index_run hquiet
  refine ⟨(keeps_completeFetch _ _).config.trans hconfig, ?_⟩
  rw [completeFetch_of_read (hgeneration.trans hgenerationKept.symm) hfilters hread, hconfig,
    (RuleIndex.tallies_load _ _ _).index, ← Session.index, hindex]

end Session

namespace RuleSet

/-! ## 8. Two orders -/

/-- **Lists that are independent may be loaded in either order.** No rule of one may be filed under
    a window or a key that a rule of the other may be filed under. Then the same signatures and keys
    are taken behind both orders, by the same patterns; either list is counted alike whether it
    comes first or second; and every request is answered alike, in a tester whichever of two fetches
    ends first. Where an entry of the index pointed past its patterns, this could fail: no reachable
    index has such an entry. -/
theorem loads_commute (s : RuleSet) (hs : s.index.WellFormed) (maxLine : Nat) (a b : Text)
    (h : RuleIndex.Independent (rulesOf maxLine a) (rulesOf maxLine b)) :
    let firstA := s.load maxLine a
    let thenB := firstA.rules.load maxLine b
    let firstB := s.load maxLine b
    let thenA := firstB.rules.load maxLine a
    ((∀ w, thenB.rules.index.hasSignature w = thenA.rules.index.hasSignature w) ∧
      ∀ k, thenB.rules.index.hasFullPattern k = thenA.rules.index.hasFullPattern k) ∧
    thenB.rules.index.SameOwners thenA.rules.index ∧
    (firstA.result = thenA.result ∧ thenB.result = firstB.result) ∧
    (∀ r blocked, thenB.rules.index.Answers r blocked ↔ thenA.rules.index.Answers r blocked) ∧
    ∀ t : Session, t.index = s.index → t.tester.config.maxLineLen.toNat = maxLine →
      ∀ ta tab tb tba : Session, t.Receives a ta → ta.Receives b tab →
        t.Receives b tb → tb.Receives a tba →
          ∀ r blocked, tab.index.Answers r blocked ↔ tba.index.Answers r blocked := by
  intro firstA thenB firstB thenA
  have hfirstA : firstA.rules.index = (s.index.fileAll (rulesOf maxLine a)).2 :=
    (RuleIndex.tallies_load s maxLine a).index
  have hfirstB : firstB.rules.index = (s.index.fileAll (rulesOf maxLine b)).2 :=
    (RuleIndex.tallies_load s maxLine b).index
  have hthenB : thenB.rules.index = (firstA.rules.index.fileAll (rulesOf maxLine b)).2 :=
    (RuleIndex.tallies_load firstA.rules maxLine b).index
  have hthenA : thenA.rules.index = (firstB.rules.index.fileAll (rulesOf maxLine a)).2 :=
    (RuleIndex.tallies_load firstB.rules maxLine a).index
  have howners := RuleIndex.sameOwners_fileAll h hs
  have hsame : thenB.rules.index.SameOwners thenA.rules.index := by
    rwa [hthenB, hthenA, hfirstA, hfirstB]
  have hwellB : thenB.rules.index.WellFormed := by
    rw [hthenB, hfirstA]
    exact RuleIndex.wellFormed_fileAll (RuleIndex.wellFormed_fileAll hs _) _
  have hwellA : thenA.rules.index.WellFormed := by
    rw [hthenA, hfirstB]
    exact RuleIndex.wellFormed_fileAll (RuleIndex.wellFormed_fileAll hs _) _
  refine ⟨⟨fun w => ?_, fun k => ?_⟩, hsame, ⟨?_, ?_⟩, fun r blocked => hsame.answers_iff r blocked,
    fun t ht hmax ta tab tb tba hta htab htb htba r blocked => ?_⟩
  · rw [← hwellB.isSome_signatureOwner, ← hwellA.isSome_signatureOwner, hsame.signature]
  · rw [← hwellB.isSome_keyOwner, ← hwellA.isSome_keyOwner, hsame.fullPattern]
  · refine result_loadLines_congr s firstB.rules 1 ?_
    rw [hfirstB]
    exact ((h.alike hs).fileAll (List.Subset.refl _)).1
  · refine (result_loadLines_congr s firstA.rules 1 ?_).symm
    rw [hfirstA]
    exact ((h.symm.alike hs).fileAll (List.Subset.refl _)).1
  · obtain ⟨hconfigA, hindexA⟩ := hta.fileAll
    obtain ⟨hconfigB, hindexB⟩ := htb.fileAll
    obtain ⟨-, hindexAB⟩ := htab.fileAll
    obtain ⟨-, hindexBA⟩ := htba.fileAll
    rw [hindexAB, hconfigA, hindexA, hindexBA, hconfigB, hindexB, hmax, ht]
    exact howners.answers_iff r blocked

/-- Two lists with nothing in common. Each has an anchored rule or a wildcard, a selector, and a
    rule that is a regular expression. -/
def advertList : Text := "||ads^\n##.advert\n/^ftp:/$script\n".toList
def bannerLines : Text := "/banner/*.gif\n##.banner\n/^ws:/\n".toList

/-- A tester with two subscriptions, for both of which a text was just stored. -/
def betweenFetches : Session where
  tester :=
    { config := Session.lateConfig
      filters := [Session.listUrl, "https://l/b".toList]
      rules := (({} : RuleSet).load 2000 Session.otherText).rules }
  files := (Session.filesWith advertList).put ["d".toList, "b".toList] (.file bannerLines.toBytes 0)

/-- The two fetches. -/
def advertFetch : FetchRequest := ⟨Session.listUrl, Session.listPath, 0⟩
def bannerFetch : FetchRequest := ⟨"https://l/b".toList, "/d/b".toList, 0⟩

theorem receives_fetches {t : Session} (h : betweenFetches.Keeps t) :
    t.Receives advertList (t.completeFetch ⟨advertFetch, true⟩) ∧
      t.Receives bannerLines (t.completeFetch ⟨bannerFetch, true⟩) := by
  have hadvert : Text.ofBytesLossy advertList.toBytes = advertList := by decide +kernel
  have hbanner : Text.ofBytesLossy bannerLines.toBytes = bannerLines := by decide +kernel
  have hfilters : ∀ q ∈ [advertFetch, bannerFetch], q.sourceUrl ∈ t.tester.filters := by
    rw [h.filters]
    decide
  constructor
  · refine hadvert ▸ Session.receives_completeFetch ?_ (hfilters _ (by simp)) ?_
    · rw [h.generation]
      rfl
    · rw [h.files]
      rfl
  · refine hbanner ▸ Session.receives_completeFetch ?_ (hfilters _ (by simp)) ?_
    · rw [h.generation]
      rfl
    · rw [h.files]
      rfl

/-- Whichever comes first, the counters and the answers are the same; only the positions differ. -/
theorem loads_commute_fetches :
    let advertFirst := betweenFetches.completeFetch ⟨advertFetch, true⟩
    let bannerFirst := betweenFetches.completeFetch ⟨bannerFetch, true⟩
    let thenBanner := advertFirst.completeFetch ⟨bannerFetch, true⟩
    let thenAdvert := bannerFirst.completeFetch ⟨advertFetch, true⟩
    RuleIndex.Independent (rulesOf 2000 advertList) (rulesOf 2000 bannerLines) ∧
    (betweenFetches.tester.rules.load 2000 advertList).result =
      ((betweenFetches.tester.rules.load 2000 bannerLines).rules.load 2000 advertList).result ∧
    (∀ r blocked, thenBanner.index.Answers r blocked ↔ thenAdvert.index.Answers r blocked) ∧
    thenBanner.index.pattern 1 ≠ thenAdvert.index.pattern 1 := by
  intro advertFirst bannerFirst thenBanner thenAdvert
  have hindependent :
      RuleIndex.Independent (rulesOf 2000 advertList) (rulesOf 2000 bannerLines) := by
    decide +kernel
  have hreachable : betweenFetches.index.Reachable :=
    RuleIndex.Grows.list (s := {}) .refl 2000 Session.otherText
  obtain ⟨hadvert, hbanner⟩ := receives_fetches (.refl betweenFetches)
  obtain ⟨-, hthenBanner⟩ := receives_fetches (Session.keeps_completeFetch betweenFetches _)
  obtain ⟨hthenAdvert, -⟩ := receives_fetches (Session.keeps_completeFetch betweenFetches _)
  obtain ⟨-, -, ⟨hresult, -⟩, -, hanswers⟩ := loads_commute betweenFetches.tester.rules
    hreachable.wellFormed 2000 advertList bannerLines hindependent
  exact ⟨hindependent, hresult,
    hanswers betweenFetches rfl rfl _ _ _ _ hadvert hthenBanner hbanner hthenAdvert,
    by decide +kernel⟩

end RuleSet

end RequestFilter
