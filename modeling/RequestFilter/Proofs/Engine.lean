import RequestFilter.Proofs.Memo
import RequestFilter.Proofs.Origins

/-!
# A matcher among changing rules

One index, one cache and one set of counters, while requests are put, rules come in, the index is
cleared and the cache is cleared, in any order.

* `Engine`, `Engine.Operation`, `Engine.run`: what there is, what can happen to it, and runs;
  a `ScanOrder` is an order in which the pattern map of any index may be scanned;
* `sinceCacheClear`, `uptoCacheClear`: a run, cut behind the last time the cache was cleared;
  `Earliest`: the first request for a URL behind that cut, and the run in front of it;
* `Knows`: what the cache holds of a URL behind a run; `Knows.apply`, `knows_run`;
* `Balanced`: every entry of the cache was a query that the cache did not answer;
* `answers_run_of_filter`: requests that are not looked up may be left out of a run;
* `runs_remember`: **the exact meaning of the memo over whole runs**.
-/

namespace RequestFilter

/-! ## 1. One query -/

/-- The request is looked up: it is for no document, and its URL is not empty. -/
def Request.isLookedUp (r : Request) : Bool := decide (r.type ≠ .document ∧ r.url ≠ [])

namespace Matcher

section Query

variable {I : RuleIndex} {order : List PatternId} {memory : Memory} {r : Request}

theorem queryInOrder_of_pass (h : r.isLookedUp = false) :
    queryInOrder I order memory r = (⟨false, none⟩, memory) := by
  have hpass : r.type = .document ∨ r.url = [] := by
    have := of_decide_eq_false h
    rwa [not_and_or, not_not, not_not] at this
  unfold queryInOrder
  rw [if_pos hpass]

theorem queryInOrder_of_hit (h : r.isLookedUp = true) {blocked : Bool}
    (hhit : memory.cache[r.url]? = some blocked) :
    queryInOrder I order memory r = (⟨blocked, none⟩, { memory with stats := { memory.stats with
      queries := memory.stats.queries + 1, cacheHits := memory.stats.cacheHits + 1 } }) := by
  have hlook : ¬ (r.type = .document ∨ r.url = []) := not_or.mpr (of_decide_eq_true h)
  unfold queryInOrder
  rw [if_neg hlook]
  simp only [hhit]

theorem queryInOrder_of_miss (h : r.isLookedUp = true) (hmiss : memory.cache[r.url]? = none) :
    (queryInOrder I order memory r).2 =
      { cache := memory.cache.insert r.url (queryInOrder I order memory r).1.blocked
        stats := { memory.stats with
          queries := memory.stats.queries + 1
          regexEvaluations :=
            memory.stats.regexEvaluations + (search I order r.url r.page).evaluations } } := by
  have hlook : ¬ (r.type = .document ∨ r.url = []) := not_or.mpr (of_decide_eq_true h)
  unfold queryInOrder
  rw [if_neg hlook]
  simp only [hmiss]
  rfl

/-- A request that is looked up counts as one query, and is either answered by the cache without
    any work or makes one new entry. -/
theorem memory_queryInOrder (h : r.isLookedUp = true) :
    let next := (queryInOrder I order memory r).2
    next.stats.queries = memory.stats.queries + 1 ∧
      ((next.stats.cacheHits = memory.stats.cacheHits + 1 ∧
          next.stats.regexEvaluations = memory.stats.regexEvaluations ∧
          next.cache = memory.cache) ∨
        (next.stats.cacheHits = memory.stats.cacheHits ∧
          next.cache.size = memory.cache.size + 1)) := by
  intro next
  cases hcached : memory.cache[r.url]? with
  | some blocked =>
    have hnext : next = { memory with stats := { memory.stats with
        queries := memory.stats.queries + 1, cacheHits := memory.stats.cacheHits + 1 } } :=
      congrArg Prod.snd (queryInOrder_of_hit h hcached)
    rw [hnext]
    exact ⟨rfl, Or.inl ⟨rfl, rfl, rfl⟩⟩
  | none =>
    have hnew : memory.cache.contains r.url = false := by
      rw [Std.TreeMap.contains_eq_isSome_getElem?, hcached]
      rfl
    have hnext : next = _ := queryInOrder_of_miss h hcached
    rw [hnext]
    exact ⟨rfl, Or.inr ⟨rfl, by simp [Std.TreeMap.size_insert, hnew]⟩⟩

end Query

end Matcher

/-! ## 2. Runs -/

/-- An order in which the pattern map may be scanned, of whatever index. -/
structure ScanOrder where
  of : RuleIndex → List PatternId
  perm : ∀ I, (of I).Perm I.fullPatternIds

/-- The order of the keys. -/
def ScanOrder.byKey : ScanOrder := ⟨RuleIndex.fullPatternIds, fun _ => .refl _⟩

/-- Rules, with a matcher's memory beside them. -/
structure Engine where
  rules : RuleSet := {}
  memory : Matcher.Memory := {}

namespace Engine

/-- What can happen to an engine. Each query has an order of its own. -/
inductive Operation where
  | query (r : Request) (scan : ScanOrder)
  | change (c : RuleSet.Change)
  | clearCache

/-- The cache begins anew. -/
def Operation.clearsCache : Operation → Bool
  | .clearCache => true
  | _ => false

/-- The operation is a request for the URL that the cache takes note of. -/
def Operation.asks (url : Text) : Operation → Bool
  | .query r _ => decide (r.url = url ∧ r.type ≠ .document)
  | _ => false

/-- The operation is a request that is not looked up. -/
def Operation.passes : Operation → Bool
  | .query r _ => !r.isLookedUp
  | _ => false

/-- The answer to a request, and the memory behind it. -/
def ask (e : Engine) (r : Request) (scan : ScanOrder) : Decision × Matcher.Memory :=
  Matcher.queryInOrder e.rules.index (scan.of e.rules.index) e.memory r

/-- The effect of an operation. -/
def apply (e : Engine) : Operation → Engine
  | .query r scan => { e with memory := (e.ask r scan).2 }
  | .change c => { e with rules := e.rules.change c }
  | .clearCache => { e with memory := { e.memory with cache := {} } }

/-- The effect of operations, one after the other. -/
def run (e : Engine) (ops : List Operation) : Engine := ops.foldl apply e

/-- The answers to the requests of a run, with the requests. -/
def answers : Engine → List Operation → List (Request × Decision)
  | _, [] => []
  | e, .query r scan :: ops => (r, (e.ask r scan).1) :: answers (e.apply (.query r scan)) ops
  | e, op :: ops => answers (e.apply op) ops

theorem run_concat (e : Engine) (ops : List Operation) (op : Operation) :
    e.run (ops ++ [op]) = (e.run ops).apply op := List.foldl_concat ..

/-! ## 3. The first request for a URL -/

/-- The operations since the cache was last cleared. -/
def sinceCacheClear (ops : List Operation) : List Operation := ops.rtakeWhile (!·.clearsCache)

/-- The operations up to where the cache was last cleared. -/
def uptoCacheClear (ops : List Operation) : List Operation := ops.rdropWhile (!·.clearsCache)

section Concat

variable (ops : List Operation) {op : Operation}

theorem sinceCacheClear_concat (h : op.clearsCache = false) :
    sinceCacheClear (ops ++ [op]) = sinceCacheClear ops ++ [op] :=
  List.rtakeWhile_concat_pos _ _ _ (by simp [h])

theorem sinceCacheClear_concat_clear (h : op.clearsCache = true) :
    sinceCacheClear (ops ++ [op]) = [] :=
  List.rtakeWhile_concat_neg _ _ _ (by simp [h])

theorem uptoCacheClear_concat (h : op.clearsCache = false) :
    uptoCacheClear (ops ++ [op]) = uptoCacheClear ops :=
  List.rdropWhile_concat_pos _ _ _ (by simp [h])

theorem uptoCacheClear_concat_clear (h : op.clearsCache = true) :
    uptoCacheClear (ops ++ [op]) = ops ++ [op] :=
  List.rdropWhile_concat_neg _ _ _ (by simp [h])

end Concat

/-- No request for the URL was looked up since the cache was last cleared. -/
def Unasked (url : Text) (ops : List Operation) : Prop :=
  ∀ op ∈ sinceCacheClear ops, op.asks url = false

/-- The first request for a URL that was looked up since the cache was last cleared, and the run in
    front of it. -/
structure Earliest (url : Text) (ops before : List Operation) (q : Request) : Prop where
  asked : q.url = url ∧ q.type ≠ .document
  split : ∃ scan since, ops = before ++ .query q scan :: since ∧
    ∀ op ∈ since, op.clearsCache = false
  first : Unasked url before

theorem Earliest.concat {url : Text} {ops before : List Operation} {q : Request}
    (h : Earliest url ops before q) {op : Operation} (hop : op.clearsCache = false) :
    Earliest url (ops ++ [op]) before q := by
  obtain ⟨scan, since, rfl, hsince⟩ := h.split
  refine ⟨h.asked, ⟨scan, since ++ [op], by simp, fun o ho => ?_⟩, h.first⟩
  rcases List.mem_append.mp ho with ho | ho
  · exact hsince o ho
  · rw [List.mem_singleton.mp ho, hop]

/-! ## 4. What the cache knows -/

/-- What the cache knows of a URL behind a run: nothing if it was not asked for since the cache was
    cleared, and else what the index of then said to the first request. -/
structure Knows (e : Engine) (url : Text) (ops : List Operation) : Prop where
  unasked : Unasked url ops → (e.run ops).memory.cache[url]? = none
  asked : ¬ Unasked url ops → ∃ before q, Earliest url ops before q ∧
    ∃ blocked, (e.run ops).memory.cache[url]? = some blocked ∧
      (e.run before).rules.index.Answers q blocked

section Knows

variable {e : Engine} {url : Text} {ops : List Operation}

/-- What does not ask for the URL and clears nothing keeps what is known of it. -/
theorem cache_apply {op : Operation} (hclear : op.clearsCache = false)
    (hasks : op.asks url = false) : (e.apply op).memory.cache[url]? = e.memory.cache[url]? := by
  cases op with
  | query r scan =>
    have hno : ¬ (r.url = url ∧ r.type ≠ .document) := of_decide_eq_false hasks
    show (e.ask r scan).2.cache[url]? = _
    rw [ask, Matcher.cache_queryInOrder, if_neg fun h => hno ⟨h.1, h.2.1⟩]
  | change c => rfl
  | clearCache => cases hclear

/-- A query behind a run: the cache answers it as it did the first one, or it is the first one. -/
theorem Knows.query {r : Request} (hlook : r.isLookedUp = true) (h : Knows e r.url ops)
    (scan : ScanOrder) : ∃ before q, Earliest r.url (ops ++ [.query r scan]) before q ∧
      (e.run before).rules.index.Answers q ((e.run ops).ask r scan).1.blocked := by
  have hlooked : r.type ≠ .document ∧ r.url ≠ [] := of_decide_eq_true hlook
  by_cases hunasked : Unasked r.url ops
  · have hmiss := h.unasked hunasked
    refine ⟨ops, r, ⟨⟨rfl, hlooked.1⟩, ⟨scan, [], rfl, by simp⟩, hunasked⟩, ?_⟩
    exact RuleIndex.answers_iff.mpr (RuleIndex.blocked_iff_stops (scan.perm _) hmiss)
  · obtain ⟨before, q, hearliest, blocked, hhit, hanswer⟩ := h.asked hunasked
    refine ⟨before, q, hearliest.concat rfl, ?_⟩
    rwa [ask, Matcher.queryInOrder_of_hit hlook hhit]

/-- **Every operation keeps it.** -/
theorem Knows.apply (hne : url ≠ []) (h : Knows e url ops) (op : Operation) :
    Knows e url (ops ++ [op]) := by
  have hrun := run_concat e ops op
  by_cases hclear : op.clearsCache = true
  · have hunasked : Unasked url (ops ++ [op]) := by
      simp [Unasked, sinceCacheClear_concat_clear ops hclear]
    refine ⟨fun _ => ?_, fun hx => absurd hunasked hx⟩
    rw [hrun]
    cases op with
    | clearCache => simp [Engine.apply]
    | _ => cases hclear
  rw [Bool.not_eq_true] at hclear
  have hsince : Unasked url (ops ++ [op]) ↔ Unasked url ops ∧ op.asks url = false := by
    simp [Unasked, sinceCacheClear_concat ops hclear, or_imp, forall_and]
  by_cases hasks : op.asks url = true
  · refine ⟨fun hx => ?_, fun _ => ?_⟩
    · rw [hsince, hasks] at hx
      cases hx.2
    cases op with
    | query r scan =>
      obtain ⟨rfl, hdoc⟩ : r.url = url ∧ r.type ≠ .document := of_decide_eq_true hasks
      have hlook : r.isLookedUp = true := decide_eq_true ⟨hdoc, hne⟩
      obtain ⟨before, q, hearliest, hanswer⟩ := h.query hlook scan
      refine ⟨before, q, hearliest, _, ?_, hanswer⟩
      rw [hrun]
      show ((e.run ops).ask r scan).2.cache[r.url]? = _
      rw [ask, Matcher.cache_queryInOrder, if_pos ⟨rfl, hdoc, hne⟩]
    | _ => cases hasks
  · rw [Bool.not_eq_true] at hasks
    have hsame := cache_apply (e := e.run ops) hclear hasks
    refine ⟨fun hx => ?_, fun hx => ?_⟩
    · rw [hrun, hsame, h.unasked (hsince.mp hx).1]
    · obtain ⟨before, q, hearliest, hknown⟩ := h.asked fun hu => hx (hsince.mpr ⟨hu, hasks⟩)
      refine ⟨before, q, hearliest.concat hclear, ?_⟩
      rwa [hrun, hsame]

/-- **Behind every run the cache holds what the index said to the first requests.** -/
theorem knows_run (rules : RuleSet) (stats : MatchStats) (hne : url ≠ []) (ops : List Operation) :
    Knows ⟨rules, { stats := stats }⟩ url ops := by
  induction ops using List.reverseRecOn with
  | nil =>
    have hunasked : Unasked url [] := by simp [Unasked, sinceCacheClear]
    exact ⟨fun _ => by simp [run], fun hx => absurd hunasked hx⟩
  | append_singleton ops op ih => exact ih.apply hne op

end Knows

/-! ## 5. Counters -/

/-- The cache has as many entries as there were queries without a hit between two states of a
    matcher's memory, the first with an empty cache. -/
def Balanced (start now : Matcher.Memory) : Prop :=
  now.cache.size + now.stats.cacheHits + start.stats.queries =
    now.stats.queries + start.stats.cacheHits

/-- **The cache is as large as the number of queries without hits since it was cleared.** -/
theorem balanced_run (rules : RuleSet) (stats : MatchStats) (ops : List Operation) :
    let e : Engine := ⟨rules, { stats := stats }⟩
    Balanced (e.run (uptoCacheClear ops)).memory (e.run ops).memory := by
  intro e
  induction ops using List.reverseRecOn with
  | nil => simp [Balanced, uptoCacheClear, run, e, Nat.add_comm]
  | append_singleton ops op ih =>
    cases op with
    | clearCache =>
      rw [uptoCacheClear_concat_clear ops rfl, run_concat]
      simp [Balanced, Engine.apply, Nat.add_comm]
    | change c =>
      rw [uptoCacheClear_concat ops rfl, run_concat]
      exact ih
    | query r scan =>
      rw [uptoCacheClear_concat ops rfl, run_concat]
      show Balanced _ ((e.run ops).ask r scan).2
      unfold Balanced at ih ⊢
      cases hlook : r.isLookedUp with
      | false =>
        rw [ask, Matcher.queryInOrder_of_pass hlook]
        exact ih
      | true =>
        have hstep := @Matcher.memory_queryInOrder (e.run ops).rules.index
          (scan.of (e.run ops).rules.index) (e.run ops).memory r hlook
        obtain ⟨hqueries, ⟨hhits, -, hcache⟩ | ⟨hhits, hsize⟩⟩ := hstep
        · rw [ask, hqueries, hhits, hcache]
          omega
        · rw [ask, hqueries, hhits, hsize]
          omega

/-! ## 6. Requests that are not looked up -/

theorem apply_of_passes (e : Engine) {op : Operation} (h : op.passes = true) : e.apply op = e := by
  cases op with
  | query r scan =>
    have hlook : r.isLookedUp = false := by simpa [Operation.passes] using h
    simp [Engine.apply, ask, Matcher.queryInOrder_of_pass hlook]
  | _ => cases h

/-- **Requests that are not looked up may be left out of a run**: the other answers are the same,
    and so is what is left behind. -/
theorem answers_run_of_filter (e : Engine) (ops : List Operation) :
    e.answers (ops.filter (!·.passes)) = (e.answers ops).filter (·.1.isLookedUp) ∧
      e.run (ops.filter (!·.passes)) = e.run ops := by
  induction ops generalizing e with
  | nil => exact ⟨rfl, rfl⟩
  | cons op ops ih =>
    obtain ⟨hanswers, hrun⟩ := ih (e.apply op)
    cases hpasses : op.passes with
    | true =>
      rw [List.filter_cons_of_neg (by simp [hpasses])]
      cases op with
      | query r scan =>
        have hlook : r.isLookedUp = false := by simpa [Operation.passes] using hpasses
        rw [apply_of_passes e hpasses] at hanswers hrun
        refine ⟨?_, ?_⟩
        · rw [hanswers, answers, apply_of_passes e hpasses,
            List.filter_cons_of_neg (by simp [hlook])]
        · rw [hrun, run, run, List.foldl_cons, apply_of_passes e hpasses]
      | _ => cases hpasses
    | false =>
      rw [List.filter_cons_of_pos (by simp [hpasses])]
      refine ⟨?_, hrun⟩
      cases op with
      | query r scan =>
        have hlook : r.isLookedUp = true := by simpa [Operation.passes] using hpasses
        rw [answers, answers, hanswers, List.filter_cons_of_pos (by simpa using hlook)]
      | change c => exact hanswers
      | clearCache => exact hanswers

/-! ## 7. The memo -/

/-- **The exact meaning of the memo over whole runs.** Let rules with an empty cache go through any
    run. A request that is looked up is answered as the index of then answered, without a cache, the
    earliest such request for the same URL since the cache was last cleared, from the page of that
    request; it counts as one query, and it is either a hit, with no evaluation and the cache left
    alone, or makes exactly one entry. So the cache has one entry for each query without a hit since
    it was cleared. All other requests are answered with no and leave the memory alone, so that they
    can be left out of the run without changing another answer. -/
theorem runs_remember (rules : RuleSet) (stats : MatchStats) (ops : List Operation) :
    let start : Engine := ⟨rules, { stats := stats }⟩
    let now := start.run ops
    (∀ (r : Request) (scan : ScanOrder), r.type ≠ .document → r.url ≠ [] →
      (∃ before q, Earliest r.url (ops ++ [.query r scan]) before q ∧
        (start.run before).rules.index.Answers q (now.ask r scan).1.blocked) ∧
      (now.ask r scan).2.stats.queries = now.memory.stats.queries + 1 ∧
      (((now.ask r scan).2.stats.cacheHits = now.memory.stats.cacheHits + 1 ∧
          (now.ask r scan).2.stats.regexEvaluations = now.memory.stats.regexEvaluations ∧
          (now.ask r scan).2.cache = now.memory.cache) ∨
        ((now.ask r scan).2.stats.cacheHits = now.memory.stats.cacheHits ∧
          (now.ask r scan).2.cache.size = now.memory.cache.size + 1))) ∧
    Balanced (start.run (uptoCacheClear ops)).memory now.memory ∧
    (∀ (r : Request) (scan : ScanOrder), r.type = .document ∨ r.url = [] →
      (now.ask r scan).1.blocked = false ∧ (now.ask r scan).2 = now.memory) ∧
    start.answers (ops.filter (!·.passes)) = (start.answers ops).filter (·.1.isLookedUp) ∧
    start.run (ops.filter (!·.passes)) = now := by
  intro start now
  have hleftOut := answers_run_of_filter start ops
  refine ⟨fun r scan hdoc hne => ?_, balanced_run rules stats ops, fun r scan hpass => ?_,
    hleftOut.1, hleftOut.2⟩
  · have hlook : r.isLookedUp = true := decide_eq_true ⟨hdoc, hne⟩
    exact ⟨(knows_run rules stats hne ops).query hlook scan, Matcher.memory_queryInOrder hlook⟩
  · have hlook : r.isLookedUp = false := decide_eq_false fun h => hpass.elim h.1 h.2
    rw [ask, Matcher.queryInOrder_of_pass hlook]
    exact ⟨rfl, rfl⟩

/-- A request for a site, and a list that blocks it. -/
def lateRequest : Request := ⟨"http://ads/x.js".toList, none, .script⟩
def lateList : Operation := .change (.list 2000 "||ads^\n".toList)

/-- Behind the list the request passes as it did before, and is blocked once the cache was
    cleared. -/
theorem runs_remember_late :
    let early : Engine := run {} [.query lateRequest .byKey, lateList]
    let cleared : Engine := run {} [.query lateRequest .byKey, lateList, .clearCache]
    lateRequest.type ≠ .document ∧ lateRequest.url ≠ [] ∧
    (early.ask lateRequest .byKey).1.blocked = false ∧
    (∃ before q, Earliest lateRequest.url
        ([.query lateRequest .byKey, lateList] ++ [.query lateRequest .byKey]) before q ∧
      (run {} before).rules.index.Answers q false) ∧
    (cleared.ask lateRequest .byKey).1.blocked = true ∧
    ∃ before q, Earliest lateRequest.url
        ([.query lateRequest .byKey, lateList, .clearCache] ++ [.query lateRequest .byKey])
        before q ∧
      (run {} before).rules.index.Answers q true := by
  intro early cleared
  have hdoc : lateRequest.type ≠ .document := by decide
  have hne : lateRequest.url ≠ [] := by decide
  have hearly : (early.ask lateRequest .byKey).1.blocked = false := by decide +kernel
  have hcleared : (cleared.ask lateRequest .byKey).1.blocked = true := by decide +kernel
  have hfirst := ((runs_remember {} {} [.query lateRequest .byKey, lateList]).1
    lateRequest .byKey hdoc hne).1
  have hagain := ((runs_remember {} {} [.query lateRequest .byKey, lateList, .clearCache]).1
    lateRequest .byKey hdoc hne).1
  refine ⟨hdoc, hne, hearly, hearly ▸ hfirst, hcleared, hcleared ▸ hagain⟩

end Engine

end RequestFilter
