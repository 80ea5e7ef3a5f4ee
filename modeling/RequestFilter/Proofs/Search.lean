import RequestFilter.Matcher
import RequestFilter.Proofs.Filing

/-!
# What a search finds

The matcher passes over patterns it has rejected, stops at the first confirmed one, and scans the
pattern map only when the signatures led to nothing. None of this shows in its answer.

* `RuleIndex.LeadsTo`: a URL leads to a pattern, by a window of its normal form or because the
  pattern map holds the pattern; `RuleIndex.Blocks`: it leads to one that confirms the block;
* `search_found_iff`: **a search finds a pattern exactly where the index blocks**;
* `RuleIndex.Answers`: the answer of a matcher that remembers nothing, whatever the order in which
  it scans the pattern map; `answers_iff` reads it off the index;
* `Extends.blocks`: an index that extends another blocks whatever the other blocks;
  `Filed.blocks_iff`: a pattern that a URL does not lead to makes no difference to the URL.
-/

namespace RequestFilter

namespace Matcher

/-! ## 1. One pattern -/

/-- A pattern confirms a block if it matches the URL and does not spare the page. -/
theorem check_iff {p : Pattern} {url : Text} {page : Option Text} :
    (check p url page).1 = true ↔ p.matchesIn url = true ∧
      ∀ site ∈ page, p.isThirdParty = true → p.matchesIn site = false := by
  unfold check
  cases p.matchesIn url with
  | false => simp
  | true =>
    cases page with
    | none => simp
    | some site => cases p.isThirdParty <;> simp

/-- Where the page is not known or not spared, a match is enough. -/
theorem check_of_matchesIn {p : Pattern} {url : Text} {page : Option Text}
    (h : p.matchesIn url = true) (hpage : page = none ∨ p.isThirdParty = false) :
    (check p url page).1 = true := by
  refine check_iff.mpr ⟨h, fun site hsite hthird => ?_⟩
  rcases hpage with rfl | hpage
  · cases hsite
  · rw [hpage] at hthird
    cases hthird

end Matcher

namespace RuleIndex

/-! ## 2. Ways to a pattern -/

/-- The URL leads to the pattern at a position: a window of its normal form is a signature of the
    pattern, or the pattern map holds it. -/
def LeadsTo (I : RuleIndex) (url : Text) (id : PatternId) : Prop :=
  (∃ w ∈ Signature.windows (Glob.normalizeUrl url), I.signature w = some id) ∨
    ∃ key, I.fullPattern key = some id

/-- The URL leads to a pattern that confirms the block. -/
def Blocks (I : RuleIndex) (url : Text) (page : Option Text) : Prop :=
  ∃ id p, I.LeadsTo url id ∧ I.pattern id = some p ∧ (Matcher.check p url page).1 = true

theorem Extends.leadsTo {I J : RuleIndex} (h : Extends I J) {url : Text} {id : PatternId}
    (hlead : I.LeadsTo url id) : J.LeadsTo url id := by
  rcases hlead with ⟨w, hw, hs⟩ | ⟨key, hk⟩
  · exact Or.inl ⟨w, hw, h.signature w id hs⟩
  · exact Or.inr ⟨key, h.fullPattern key id hk⟩

/-- **What an index blocks, every index that extends it blocks.** -/
theorem Extends.blocks {I J : RuleIndex} (h : Extends I J) {url : Text} {page : Option Text}
    (hb : I.Blocks url page) : J.Blocks url page := by
  obtain ⟨id, p, hlead, hp, hc⟩ := hb
  exact ⟨id, p, h.leadsTo hlead, h.pattern id p hp, hc⟩

/-- **A pattern makes no difference to a URL that does not lead to it.** -/
theorem Filed.blocks_iff {I J : RuleIndex} {p : Pattern} {signatures : List Text}
    {key : Option Text} (h : Filed I J p signatures key) (hI : WellFormed I) {url : Text}
    (hurl : ¬ J.LeadsTo url I.patterns.size) (page : Option Text) :
    J.Blocks url page ↔ I.Blocks url page := by
  refine ⟨?_, h.extends.blocks⟩
  intro hx
  obtain ⟨id, q, hlead, hq, hc⟩ := hx
  -- the way to `id` is older than the new pattern, for the new one is not led to
  have hold : I.LeadsTo url id ∧ id < I.patterns.size := by
    rcases id.lt_or_ge I.patterns.size with hid | hid
    · refine ⟨?_, hid⟩
      rcases hlead with ⟨w, hw, hs⟩ | ⟨k, hk⟩
      · rcases h.signature_cases hs with hs | ⟨-, -, rfl⟩
        · exact Or.inl ⟨w, hw, hs⟩
        · exact absurd hid (Nat.lt_irrefl _)
      · rcases h.fullPattern_cases hk with hk | ⟨-, -, rfl⟩
        · exact Or.inr ⟨k, hk⟩
        · exact absurd hid (Nat.lt_irrefl _)
    · rcases hlead with ⟨w, hw, hs⟩ | ⟨k, hk⟩
      · rcases h.signature_cases hs with hs' | ⟨-, -, rfl⟩
        · exact absurd (hI.signature w id hs') (Nat.not_lt.mpr hid)
        · exact absurd (Or.inl ⟨w, hw, hs⟩) hurl
      · rcases h.fullPattern_cases hk with hk' | ⟨-, -, rfl⟩
        · exact absurd (hI.fullPattern k id hk') (Nat.not_lt.mpr hid)
        · exact absurd (Or.inr ⟨k, hk⟩) hurl
  exact ⟨id, q, hold.1, (h.pattern_lt hold.2).symm.trans hq, hc⟩

end RuleIndex

namespace Matcher

/-! ## 3. The searches -/

section Searches

variable {index : RuleIndex} {url : Text} {page : Option Text}

/-- The patterns that a search passes over were rejected, so passing over them loses nothing. -/
theorem bySignature_found_iff {windows : List Text} {rejected : List PatternId}
    (hrej : ∀ id ∈ rejected, ∀ p, index.pattern id = some p → (check p url page).1 = false) :
    (bySignature index url page rejected windows).found.isSome = true ↔
      ∃ w ∈ windows, ∃ id p, index.signature w = some id ∧ index.pattern id = some p ∧
        (check p url page).1 = true := by
  induction windows generalizing rejected with
  | nil => simp [bySignature]
  | cons w windows ih =>
    simp only [List.mem_cons, exists_eq_or_imp]
    unfold bySignature
    cases hs : index.signature w with
    | none =>
      rw [ih hrej]
      simp
    | some id =>
      by_cases hmem : id ∈ rejected
      · simp only [hmem, if_true]
        rw [ih hrej]
        refine ⟨Or.inr, ?_⟩
        intro hx
        rcases hx with ⟨id', p, hid, hp, hc⟩ | h
        · obtain rfl := Option.some.inj hid
          rw [hrej id hmem p hp] at hc
          cases hc
        · exact h
      · simp only [hmem, if_false]
        cases hp : index.pattern id with
        | none =>
          have hrej' : ∀ i ∈ id :: rejected, ∀ p, index.pattern i = some p →
              (check p url page).1 = false := by
            intro i hi p hip
            rcases List.mem_cons.mp hi with rfl | hi
            · rw [hp] at hip
              cases hip
            · exact hrej i hi p hip
          simp only
          rw [ih hrej']
          refine ⟨Or.inr, ?_⟩
          intro hx
          rcases hx with ⟨id', p, hid, hp', hc⟩ | h
          · obtain rfl := Option.some.inj hid
            rw [hp] at hp'
            cases hp'
          · exact h
        | some p =>
          cases hc : (check p url page).1 with
          | true =>
            simp only [hc, if_true, Option.isSome_some, true_iff]
            exact Or.inl ⟨id, p, rfl, hp, hc⟩
          | false =>
            have hrej' : ∀ i ∈ id :: rejected, ∀ q, index.pattern i = some q →
                (check q url page).1 = false := by
              intro i hi q hiq
              rcases List.mem_cons.mp hi with rfl | hi
              · rw [hp] at hiq
                obtain rfl := Option.some.inj hiq
                exact hc
              · exact hrej i hi q hiq
            simp only [hc, Bool.false_eq_true, if_false, Search.after]
            rw [ih hrej']
            refine ⟨Or.inr, ?_⟩
            intro hx
            rcases hx with ⟨id', q, hid, hq, hcq⟩ | h
            · obtain rfl := Option.some.inj hid
              rw [hp] at hq
              obtain rfl := Option.some.inj hq
              rw [hc] at hcq
              cases hcq
            · exact h

theorem byPatternMap_found_iff {ids : List PatternId} :
    (byPatternMap index url page ids).found.isSome = true ↔
      ∃ id ∈ ids, ∃ p, index.pattern id = some p ∧ (check p url page).1 = true := by
  induction ids with
  | nil => simp [byPatternMap]
  | cons id ids ih =>
    simp only [List.mem_cons, exists_eq_or_imp]
    unfold byPatternMap
    cases hp : index.pattern id with
    | none =>
      rw [ih]
      simp
    | some p =>
      cases hc : (check p url page).1 with
      | true =>
        simp only [hc, if_true, Option.isSome_some, true_iff]
        exact Or.inl ⟨p, rfl, hc⟩
      | false =>
        simp only [hc, Bool.false_eq_true, if_false, Search.after]
        rw [ih]
        simp [hc]

/-- **A search finds a pattern exactly where the index blocks**, in whatever order it scans the
    pattern map. -/
theorem search_found_iff {order : List PatternId} (horder : order.Perm index.fullPatternIds) :
    (search index order url page).found.isSome = true ↔ index.Blocks url page := by
  let windows := Signature.windows (Glob.normalizeUrl url)
  have hfirst : (bySignature index url page [] windows).found.isSome = true ↔
      ∃ w ∈ windows, ∃ id p, index.signature w = some id ∧ index.pattern id = some p ∧
        (check p url page).1 = true :=
    bySignature_found_iff (by simp)
  have hsecond : (byPatternMap index url page order).found.isSome = true ↔
      ∃ id ∈ order, ∃ p, index.pattern id = some p ∧ (check p url page).1 = true :=
    byPatternMap_found_iff
  have heither : (search index order url page).found.isSome = true ↔
      (bySignature index url page [] windows).found.isSome = true ∨
        (byPatternMap index url page order).found.isSome = true := by
    unfold search
    cases h : (bySignature index url page [] windows).found <;> simp [windows, h, Search.after]
  rw [heither, hfirst, hsecond]
  unfold RuleIndex.Blocks RuleIndex.LeadsTo
  constructor
  · intro hx
    rcases hx with ⟨w, hw, id, p, hs, hp, hc⟩ | ⟨id, hid, p, hp, hc⟩
    · exact ⟨id, p, Or.inl ⟨w, hw, hs⟩, hp, hc⟩
    · exact ⟨id, p, Or.inr (RuleIndex.mem_fullPatternIds.mp (horder.mem_iff.mp hid)), hp, hc⟩
  · intro hx
    obtain ⟨id, p, ⟨w, hw, hs⟩ | hk, hp, hc⟩ := hx
    · exact Or.inl ⟨w, hw, id, p, hs, hp, hc⟩
    · exact Or.inr ⟨id, horder.mem_iff.mpr (RuleIndex.mem_fullPatternIds.mpr hk), p, hp, hc⟩

end Searches

end Matcher

/-! ## 4. Answers -/

namespace RuleIndex

/-- The answer to a request of a matcher that remembers no decision: whatever its counters, and in
    whatever order it scans the pattern map. -/
def Answers (I : RuleIndex) (r : Request) (blocked : Bool) : Prop :=
  ∀ (order : List PatternId) (stats : MatchStats), order.Perm I.fullPatternIds →
    (Matcher.queryInOrder I order { stats := stats } r).1.blocked = blocked

/-- The index stops a request: it blocks the URL, and the request is one that is looked up. -/
def Stops (I : RuleIndex) (r : Request) : Prop :=
  r.type ≠ .document ∧ r.url ≠ [] ∧ I.Blocks r.url r.page

theorem Extends.stops {I J : RuleIndex} (h : Extends I J) {r : Request} (hs : I.Stops r) :
    J.Stops r := ⟨hs.1, hs.2.1, h.blocks hs.2.2⟩

/-- Where the cache does not know the URL, the decision is what the index says. -/
theorem blocked_iff_stops {I : RuleIndex} {order : List PatternId} {memory : Matcher.Memory}
    {r : Request} (horder : order.Perm I.fullPatternIds) (hmiss : memory.cache[r.url]? = none) :
    (Matcher.queryInOrder I order memory r).1.blocked = true ↔ I.Stops r := by
  unfold Matcher.queryInOrder Stops
  split
  · rename_i hpass
    rcases hpass with h | h <;> simp [h]
  · rename_i hpass
    rw [not_or] at hpass
    simp only [hmiss]
    rw [Matcher.search_found_iff horder]
    exact ⟨fun h => ⟨hpass.1, hpass.2, h⟩, fun h => h.2.2⟩

/-- **The answer is yes exactly to the requests that the index stops.** -/
theorem answers_iff {I : RuleIndex} {r : Request} {blocked : Bool} :
    I.Answers r blocked ↔ (blocked = true ↔ I.Stops r) := by
  have hmiss : ({} : DecisionCache)[r.url]? = none := by simp
  constructor
  · intro h
    rw [← h I.fullPatternIds {} (.refl _)]
    exact blocked_iff_stops (.refl _) hmiss
  · intro h order stats horder
    rw [Bool.eq_iff_iff, h]
    exact blocked_iff_stops horder hmiss

theorem answers_true_iff {I : RuleIndex} {r : Request} : I.Answers r true ↔ I.Stops r := by
  rw [answers_iff]
  simp

/-- One order and one state of the counters are as good as any. -/
theorem answers_iff_query {I : RuleIndex} {r : Request} {blocked : Bool} :
    I.Answers r blocked ↔ (Matcher.query I {} r).1.blocked = blocked := by
  have hmiss : ({} : DecisionCache)[r.url]? = none := by simp
  have hquery : (Matcher.query I {} r).1.blocked = true ↔ I.Stops r :=
    blocked_iff_stops (.refl _) hmiss
  rw [answers_iff, ← hquery]
  cases blocked <;> simp

/-- Two indices that stop the same of a request answer it alike. -/
theorem answers_congr {I J : RuleIndex} {r : Request} (h : J.Stops r ↔ I.Stops r) (blocked : Bool) :
    J.Answers r blocked ↔ I.Answers r blocked := by
  rw [answers_iff, answers_iff, h]

end RuleIndex

/-! ## 5. The rule that was filed last -/

namespace CompiledRule

open RuleIndex

variable {c : CompiledRule} {I J : RuleIndex}

/-- **A URL leads to the rule that was filed last by one of the windows it asked for, or because it
    got a key.** -/
theorem leadsTo_iff (h : I.Filed J c.pattern (c.signaturesIn I) (c.keyIn I)) (hI : WellFormed I)
    {url : Text} : J.LeadsTo url I.patterns.size ↔
      (c.keyIn I).isSome = true ∨
        ∃ w ∈ c.signaturesIn I, w ∈ Signature.windows (Glob.normalizeUrl url) := by
  constructor
  · intro hx
    rcases hx with ⟨w, hw, hs⟩ | ⟨k, hk⟩
    · rcases h.signature_cases hs with hold | ⟨-, hmem, -⟩
      · exact absurd (hI.signature w _ hold) (Nat.lt_irrefl _)
      · exact Or.inr ⟨w, hmem, hw⟩
    · rcases h.fullPattern_cases hk with hold | ⟨-, hkey, -⟩
      · exact absurd (hI.fullPattern k _ hold) (Nat.lt_irrefl _)
      · exact Or.inl (hkey ▸ rfl)
  · intro hx
    rcases hx with hkey | ⟨w, hmem, hw⟩
    · obtain ⟨k, hk⟩ := Option.isSome_iff_exists.mp hkey
      refine Or.inr ⟨k, ?_⟩
      rw [h.fullPattern, fullPattern_of_keyIn h hk, Option.none_or, if_pos hk]
    · refine Or.inl ⟨w, hw, ?_⟩
      rw [h.signature, signature_of_mem_signaturesIn hmem, Option.none_or, if_pos hmem]

end CompiledRule

namespace RuleIndex

variable {I J : RuleIndex} {p : Pattern} {signatures : List Text} {key : Option Text}

/-- A pattern that a request leads to and that matches its URL stops it. -/
theorem Filed.stops (h : Filed I J p signatures key) {r : Request}
    (hlead : J.LeadsTo r.url I.patterns.size) (hmatch : p.matchesIn r.url = true)
    (hpage : r.page = none ∨ p.isThirdParty = false) (hne : r.url ≠ [])
    (hdoc : r.type ≠ .document) : J.Stops r :=
  ⟨hdoc, hne, _, p, hlead, h.pattern_self, Matcher.check_of_matchesIn hmatch hpage⟩

/-- A pattern makes no difference to the requests that do not lead to it. -/
theorem Filed.stops_iff (h : Filed I J p signatures key) (hI : WellFormed I) {r : Request}
    (hurl : ¬ J.LeadsTo r.url I.patterns.size) : J.Stops r ↔ I.Stops r := by
  unfold Stops
  rw [h.blocks_iff hI hurl]

end RuleIndex

end RequestFilter
