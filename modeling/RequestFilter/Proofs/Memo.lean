import Mathlib.Data.List.Induction
import RequestFilter.Proofs.Search

/-!
# The memory of a matcher

A matcher remembers a decision by the URL alone, while a decision may depend on the page: a pattern
for third parties spares the pages it matches. So behind a sequence of queries a matcher answers as
it did when it was first asked for the URL, from whatever page that was.

* `RuleIndex.SeesAlike`: no pattern for third parties tells two pages apart; then the index blocks
  the same from both, `SeesAlike.blocks_iff`;
* `cache_queryInOrder`: what a query writes down;
* `firstFor`: the first request of a sequence that was looked up for a URL; `Remembers`: what the
  cache holds behind a sequence, `remembers_queries`;
* `queries_answer`: **each query is answered as it would be alone from the page of the first query
  for its URL** -- and so as it would be alone, if the index sees both pages alike.

NOT here: an index that changes between two queries (`Proofs/Recall.lean`).
-/

namespace RequestFilter

/-! ## 1. Pages -/

namespace RuleIndex

/-- Every pattern for third parties that matches the URL matches both pages or neither; a page that
    is not known is matched by none. -/
def SeesAlike (I : RuleIndex) (url : Text) (page other : Option Text) : Prop :=
  ∀ id p, I.pattern id = some p → p.isThirdParty = true → p.matchesIn url = true →
    page.any p.matchesIn = other.any p.matchesIn

section SeesAlike

variable {I : RuleIndex} {url : Text} {page other : Option Text}

/-- It is enough that every pattern matches both pages or neither. -/
theorem seesAlike_of_all
    (h : I.patterns.toList.all (fun p => page.any p.matchesIn == other.any p.matchesIn) = true) :
    I.SeesAlike url page other := by
  intro id p hp _ _
  simpa using List.all_eq_true.mp h p (mem_patterns hp)

theorem SeesAlike.symm (h : I.SeesAlike url page other) : I.SeesAlike url other page :=
  fun id p hp hthird hmatch => (h id p hp hthird hmatch).symm

theorem SeesAlike.blocks (h : I.SeesAlike url page other) (hb : I.Blocks url page) :
    I.Blocks url other := by
  obtain ⟨id, p, hlead, hp, hc⟩ := hb
  obtain ⟨hmatch, hspares⟩ := Matcher.check_iff.mp hc
  refine ⟨id, p, hlead, hp, Matcher.check_iff.mpr ⟨hmatch, fun site hsite hthird => ?_⟩⟩
  have hpage : page.any p.matchesIn = false :=
    (Option.any_eq_false _ _).mpr fun site hsite => hspares site hsite hthird
  rw [h id p hp hthird hmatch] at hpage
  exact (Option.any_eq_false _ _).mp hpage site hsite

/-- **From pages that the index sees alike it blocks the same.** -/
theorem SeesAlike.blocks_iff (h : I.SeesAlike url page other) :
    I.Blocks url page ↔ I.Blocks url other :=
  ⟨h.blocks, h.symm.blocks⟩

/-- Requests that are looked up for the same URL from the same page are stopped alike. -/
theorem stops_iff_of_eq {q r : Request} (hurl : q.url = r.url) (hpage : q.page = r.page)
    (hq : q.type ≠ .document) (hr : r.type ≠ .document) : I.Stops q ↔ I.Stops r := by
  unfold Stops
  rw [hurl, hpage]
  simp [hq, hr]

end SeesAlike

end RuleIndex

namespace Matcher

/-! ## 2. One query -/

section Query

variable {I : RuleIndex} {order : List PatternId} {memory : Memory} {r : Request}

/-- Documents and empty URLs pass. -/
theorem blocked_of_pass (h : r.type = .document ∨ r.url = []) :
    (queryInOrder I order memory r).1.blocked = false := by
  unfold queryInOrder
  rw [if_pos h]

/-- What is remembered is the answer. -/
theorem blocked_of_hit (hdoc : r.type ≠ .document) (hne : r.url ≠ []) {blocked : Bool}
    (h : memory.cache[r.url]? = some blocked) :
    (queryInOrder I order memory r).1.blocked = blocked := by
  unfold queryInOrder
  rw [if_neg (not_or.mpr ⟨hdoc, hne⟩)]
  simp only [h]

/-- A query remembers its answer under its URL, unless it passes. -/
theorem cache_queryInOrder (url : Text) : (queryInOrder I order memory r).2.cache[url]? =
    if r.url = url ∧ r.type ≠ .document ∧ r.url ≠ [] then
      some (queryInOrder I order memory r).1.blocked
    else memory.cache[url]? := by
  unfold queryInOrder
  by_cases hpass : r.type = .document ∨ r.url = []
  · rw [if_pos hpass, if_neg]
    intro hx
    obtain ⟨-, hdoc, hne⟩ := hx
    exact hpass.elim hdoc hne
  · rw [if_neg hpass]
    rw [not_or] at hpass
    by_cases hurl : r.url = url
    · subst hurl
      rw [if_pos ⟨rfl, hpass⟩]
      cases hc : memory.cache[r.url]? with
      | none => simp [DecisionCache.remember]
      | some blocked => simp [hc]
    · rw [if_neg fun h => hurl h.1]
      cases hc : memory.cache[r.url]? with
      | none => simp [DecisionCache.remember, Std.TreeMap.getElem?_insert, hurl]
      | some blocked => simp

end Query

/-! ## 3. Queries one after the other -/

/-- What a matcher carries behind a sequence of queries. -/
def queries (I : RuleIndex) (order : List PatternId) (memory : Memory) (rs : List Request) :
    Memory :=
  rs.foldl (fun memory r => (queryInOrder I order memory r).2) memory

theorem queries_concat (I : RuleIndex) (order : List PatternId) (memory : Memory)
    (rs : List Request) (r : Request) : queries I order memory (rs ++ [r]) =
      (queryInOrder I order (queries I order memory rs) r).2 := by
  rw [queries, List.foldl_append]
  rfl

/-- The first request of a sequence that the cache was consulted on for a URL. -/
def firstFor (url : Text) (rs : List Request) : Option Request :=
  rs.find? fun r => decide (r.url = url ∧ r.type ≠ .document)

/-- The page from which a sequence first asked for the URL of a request; that of the request itself,
    if it did not ask before. -/
def firstPage (rs : List Request) (r : Request) : Option Text := ((firstFor r.url rs).getD r).page

/-- What a cache knows of a URL behind a sequence: nothing if it was not asked for, and else the
    answer of the index to the first request. -/
structure Remembers (I : RuleIndex) (url : Text) (rs : List Request) (cache : DecisionCache) :
    Prop where
  unasked : firstFor url rs = none → cache[url]? = none
  asked : ∀ q, firstFor url rs = some q →
    ∃ blocked, cache[url]? = some blocked ∧ I.Answers q blocked

section Sequence

variable {I : RuleIndex} {order : List PatternId}

/-- One more query keeps what is remembered, or is the first one for its URL. -/
theorem Remembers.query (horder : order.Perm I.fullPatternIds) {url : Text} (hne : url ≠ [])
    {rs : List Request} {memory : Memory} (h : Remembers I url rs memory.cache) (r : Request) :
    Remembers I url (rs ++ [r]) (queryInOrder I order memory r).2.cache := by
  have hfirst : firstFor url (rs ++ [r]) = (firstFor url rs).or
      (if r.url = url ∧ r.type ≠ .document then some r else none) := by
    rw [firstFor, List.find?_append, List.find?_singleton]
    simp only [firstFor, decide_eq_true_eq]
  by_cases hasked : r.url = url ∧ r.type ≠ .document
  · rw [if_pos hasked] at hfirst
    obtain ⟨rfl, hdoc⟩ := hasked
    have hcache : (queryInOrder I order memory r).2.cache[r.url]? =
        some (queryInOrder I order memory r).1.blocked := by
      rw [cache_queryInOrder, if_pos ⟨rfl, hdoc, hne⟩]
    cases hq : firstFor r.url rs with
    | none =>
      have hanswer : I.Answers r (queryInOrder I order memory r).1.blocked :=
        RuleIndex.answers_iff.mpr (RuleIndex.blocked_iff_stops horder (h.unasked hq))
      rw [hq, Option.none_or] at hfirst
      refine ⟨fun hnone => by simp [hfirst] at hnone, fun q hsome => ⟨_, hcache, ?_⟩⟩
      rwa [← Option.some.inj (hfirst.symm.trans hsome)]
    | some q =>
      obtain ⟨blocked, hhit, hanswer⟩ := h.asked q hq
      rw [hq, Option.some_or] at hfirst
      rw [blocked_of_hit hdoc hne hhit] at hcache
      refine ⟨fun hnone => by simp [hfirst] at hnone, fun q' hsome => ⟨blocked, hcache, ?_⟩⟩
      rwa [← Option.some.inj (hfirst.symm.trans hsome)]
  · rw [if_neg hasked, Option.or_none] at hfirst
    have hcache : (queryInOrder I order memory r).2.cache[url]? = memory.cache[url]? := by
      rw [cache_queryInOrder, if_neg fun hx => hasked ⟨hx.1, hx.2.1⟩]
    refine ⟨fun hnone => ?_, fun q hsome => ?_⟩
    · rw [hcache, h.unasked (hfirst ▸ hnone)]
    · rw [hcache]
      exact h.asked q (hfirst ▸ hsome)

/-- **Behind every sequence the cache holds the answers to the first requests.** -/
theorem remembers_queries (horder : order.Perm I.fullPatternIds) (stats : MatchStats) {url : Text}
    (hne : url ≠ []) (rs : List Request) :
    Remembers I url rs (queries I order { stats := stats } rs).cache := by
  induction rs using List.reverseRecOn with
  | nil => exact ⟨fun _ => by simp [queries], fun q hq => by simp [firstFor] at hq⟩
  | append_singleton rs r ih =>
    rw [queries_concat]
    exact ih.query horder hne r

/-- **Each query is answered as it would be alone from the page of the first query for its URL.**
    If no pattern for third parties that matches the URL tells that page from its own, it is
    answered as it would be alone. -/
theorem queries_answer (horder : order.Perm I.fullPatternIds) (stats : MatchStats)
    (rs : List Request) (r : Request) :
    I.Answers { r with page := firstPage rs r }
      (queryInOrder I order (queries I order { stats := stats } rs) r).1.blocked ∧
    (I.SeesAlike r.url (firstPage rs r) r.page →
      I.Answers r (queryInOrder I order (queries I order { stats := stats } rs) r).1.blocked) := by
  have hfirst : I.Answers { r with page := firstPage rs r }
      (queryInOrder I order (queries I order { stats := stats } rs) r).1.blocked := by
    by_cases hpass : r.type = .document ∨ r.url = []
    · rw [blocked_of_pass hpass, RuleIndex.answers_iff]
      have hno : ¬ I.Stops { r with page := firstPage rs r } := fun hs => hpass.elim hs.1 hs.2.1
      simp [hno]
    rw [not_or] at hpass
    have hmemory := remembers_queries horder stats hpass.2 rs
    unfold firstPage
    cases hq : firstFor r.url rs with
    | none =>
      exact RuleIndex.answers_iff.mpr (RuleIndex.blocked_iff_stops horder (hmemory.unasked hq))
    | some q =>
      obtain ⟨blocked, hhit, hanswer⟩ := hmemory.asked q hq
      have hq' : q.url = r.url ∧ q.type ≠ .document := by
        simpa [firstFor] using List.find?_some hq
      rw [blocked_of_hit hpass.1 hpass.2 hhit]
      rw [RuleIndex.answers_iff] at hanswer ⊢
      rw [hanswer]
      exact RuleIndex.stops_iff_of_eq hq'.1 rfl hq'.2 hpass.1
  refine ⟨hfirst, fun halike => ?_⟩
  rw [RuleIndex.answers_iff] at hfirst ⊢
  rw [hfirst]
  unfold RuleIndex.Stops
  rw [halike.blocks_iff]

end Sequence

/-! ## 4. Two pages, one URL -/

/-- A rule for third parties. -/
def trackerRule : Rule := ⟨"tracker.net$third-party".toList, [], .fullUri⟩

/-- A request for its site. -/
def trackerRequest (page : Option Text) : Request :=
  ⟨"http://tracker.net/t.js".toList, page, .script⟩

/-- The site itself, and another one. -/
def ownSite : Option Text := some "http://tracker.net/".toList
def otherSite : Option Text := some "http://news.org/".toList

theorem exists_trackerIndex : ∃ J, ({} : RuleIndex).compileRule trackerRule =
    .ok (.indexed 0 4 false, J) :=
  RuleIndex.exists_compileRule (show (({} : RuleIndex).compileRule trackerRule).toOption.map
    Prod.fst = some (.indexed 0 4 false) by decide +kernel)

/-- The answer to a request from another site, behind one from the given page. -/
def answerBehind (J : RuleIndex) (page : Option Text) : Bool :=
  (queryInOrder J J.fullPatternIds (queries J J.fullPatternIds {} [trackerRequest page])
    (trackerRequest otherSite)).1.blocked

/-- Behind a request from the site itself one from another site passes, as the first one did; behind
    one from an unknown page it is blocked, as it is alone, for neither page is spared. -/
theorem queries_answer_tracker : ∃ J : RuleIndex, J.fullPatternIds.Perm J.fullPatternIds ∧
    answerBehind J ownSite = false ∧ J.Answers (trackerRequest ownSite) false ∧
    J.SeesAlike (trackerRequest otherSite).url none otherSite ∧
    answerBehind J none = true ∧ J.Answers (trackerRequest otherSite) true := by
  obtain ⟨J, hJ⟩ := exists_trackerIndex
  have hvalues : (({} : RuleIndex).compileRule trackerRule).toOption.map (fun result =>
      (answerBehind result.2 ownSite, answerBehind result.2 none,
        result.2.patterns.toList.all fun p => (none : Option Text).any p.matchesIn ==
          otherSite.any p.matchesIn)) = some (false, true, true) := by
    decide +kernel
  rw [hJ] at hvalues
  obtain ⟨hown, hrest⟩ := Prod.mk.inj (Option.some.inj hvalues)
  obtain ⟨hnone, hall⟩ := Prod.mk.inj hrest
  have halike : J.SeesAlike (trackerRequest otherSite).url none otherSite :=
    RuleIndex.seesAlike_of_all hall
  refine ⟨J, .refl _, hown, ?_, halike, hnone, ?_⟩
  · rw [← hown]
    exact (queries_answer (.refl _) {} [trackerRequest ownSite] (trackerRequest otherSite)).1
  · rw [← hnone]
    exact (queries_answer (.refl _) {} [trackerRequest none] (trackerRequest otherSite)).2 halike

/-- A query need not be answered as it would be alone: the page it comes from is not part of what is
    remembered. -/
theorem page_forgotten : ¬ ∀ (I : RuleIndex) (order : List PatternId) (stats : MatchStats)
    (rs : List Request) (r : Request), order.Perm I.fullPatternIds →
      I.Answers r (queryInOrder I order (queries I order { stats := stats } rs) r).1.blocked := by
  intro h
  obtain ⟨J, hJ⟩ := exists_trackerIndex
  have hvalues : (({} : RuleIndex).compileRule trackerRule).toOption.map (fun result =>
      (answerBehind result.2 ownSite, (query result.2 {} (trackerRequest otherSite)).1.blocked)) =
        some (false, true) := by
    decide +kernel
  rw [hJ] at hvalues
  obtain ⟨hbehind, halone⟩ := Prod.mk.inj (Option.some.inj hvalues)
  have hclaimed := h J J.fullPatternIds {} [trackerRequest ownSite] (trackerRequest otherSite)
    (.refl _)
  rw [RuleIndex.answers_iff_query, halone] at hclaimed
  rw [answerBehind, ← hclaimed] at hbehind
  cases hbehind

end Matcher

end RequestFilter
