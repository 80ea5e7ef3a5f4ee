import Mathlib.Data.Finset.Card
import RequestFilter.Benchmark
import RequestFilter.Proofs.Engine

/-!
# What a benchmark counts

All requests of a run come from one page, so a cache that was filled on the way never answers
otherwise than the index does. Every request is put twice in a round of passes, once to a cache of
this pass and once to a cache of all of them, and a URL misses a cache once in its life.

* `Benchmark.blocksAlone`: the answer to a URL of a matcher that remembers nothing;
* `Benchmark.Knows`: a cache holds these answers for the URLs of a set, and nothing else;
* `Benchmark.Put`: so many requests were put, and the URLs that are known became more;
  `Knows.query`: **what one request does**, `Knows.pass`: **what a pass does**;
* `coldPasses_counts`, `cachedPasses_counts`: what the passes of either way do;
* `run_counts`: **the counters of a run in closed form**.

NOT here: how many regular expressions are evaluated, which is up to the rules.
-/

namespace RequestFilter

namespace Benchmark

/-! ## 1. One request -/

/-- The URL is blocked by a matcher that remembers no decision. -/
def blocksAlone (I : RuleIndex) (url : Text) : Bool :=
  (Matcher.query I {} (request url .other)).1.blocked

/-- The cache holds the answer of the index to each URL of a set, and knows no other one. -/
def Knows (I : RuleIndex) (known : Finset Text) (cache : DecisionCache) : Prop :=
  ∀ url, cache[url]? = if url ∈ known then some (blocksAlone I url) else none

theorem knows_empty (I : RuleIndex) : Knows I ∅ {} := by
  intro url
  simp

/-- So many requests were put to a matcher, and while they were answered its cache came to know
    other URLs. Each that is new was a miss, and all else were hits. -/
structure Put (n : Nat) (known : Finset Text) (stats : MatchStats) (known' : Finset Text)
    (stats' : MatchStats) : Prop where
  queries : stats'.queries = stats.queries + n
  hits : stats'.cacheHits + known'.card = stats.cacheHits + n + known.card

theorem Put.trans {m n : Nat} {known known' known'' : Finset Text}
    {stats stats' stats'' : MatchStats} (h : Put m known stats known' stats')
    (h' : Put n known' stats' known'' stats'') : Put (m + n) known stats known'' stats'' where
  queries := by rw [h'.queries, h.queries, Nat.add_assoc]
  hits := by
    have hfirst := h.hits
    have hrest := h'.hits
    omega

section Pass

variable {I : RuleIndex} {known : Finset Text} {memory : Matcher.Memory}

/-- What is not remembered is answered as it is alone. -/
theorem blocked_of_miss {url : Text} (hmiss : memory.cache[url]? = none) :
    (Matcher.query I memory (request url .other)).1.blocked = blocksAlone I url := by
  have hempty : ({} : DecisionCache)[url]? = none := by simp
  have halone : blocksAlone I url = true ↔ I.Stops (request url .other) :=
    RuleIndex.blocked_iff_stops (.refl _) hempty
  rw [Bool.eq_iff_iff, halone]
  exact RuleIndex.blocked_iff_stops (.refl _) hmiss

/-- **One request** is answered as it would be alone, and its URL is known from then on. -/
theorem Knows.query (h : Knows I known memory.cache) {url : Text} (hne : url ≠ []) :
    let answered := Matcher.query I memory (request url .other)
    answered.1.blocked = blocksAlone I url ∧ Knows I (insert url known) answered.2.cache ∧
      Put 1 known memory.stats (insert url known) answered.2.stats := by
  have hlook : (request url .other).isLookedUp = true := by
    simp [Request.isLookedUp, request, hne]
  intro answered
  by_cases hin : url ∈ known
  · have hhit : memory.cache[url]? = some (blocksAlone I url) := by rw [h url, if_pos hin]
    have hanswered : answered = _ := Matcher.queryInOrder_of_hit hlook hhit
    rw [hanswered, Finset.insert_eq_of_mem hin]
    exact ⟨rfl, h, rfl, rfl⟩
  · have hmiss : memory.cache[url]? = none := by rw [h url, if_neg hin]
    have hanswer : answered.1.blocked = blocksAlone I url := blocked_of_miss hmiss
    have hnext : answered.2 = _ := Matcher.queryInOrder_of_miss hlook hmiss
    refine ⟨hanswer, fun other => ?_, ?_⟩
    · rw [hnext]
      show (memory.cache.insert url answered.1.blocked)[other]? = _
      by_cases hother : url = other
      · simp [hother, hanswer]
      · simp [Std.TreeMap.getElem?_insert, hother, Ne.symm hother, h other]
    · rw [hnext]
      exact ⟨rfl, by rw [Finset.card_insert_of_notMem hin]; simp only; omega⟩

/-! ## 2. One pass -/

/-- **A pass** blocks the requests that are blocked alone, and comes to know all their URLs. -/
theorem Knows.pass (h : Knows I known memory.cache) {urls : List Text}
    (hne : ∀ url ∈ urls, url ≠ []) :
    let passed := pass I memory (urls.map (request · .other))
    passed.1 = urls.countP (blocksAlone I) ∧ Knows I (known ∪ urls.toFinset) passed.2.cache ∧
      Put urls.length known memory.stats (known ∪ urls.toFinset) passed.2.stats := by
  induction urls generalizing known memory with
  | nil => exact ⟨rfl, by simpa [Benchmark.pass] using h, ⟨rfl, by simp [Benchmark.pass]⟩⟩
  | cons url urls ih =>
    obtain ⟨hfirst, hrest⟩ := List.forall_mem_cons.mp hne
    obtain ⟨hanswer, hknows, hput⟩ := h.query hfirst
    obtain ⟨hblocked, hall, hputs⟩ := ih hknows hrest
    have hunion : insert url known ∪ urls.toFinset = known ∪ (url :: urls).toFinset := by
      rw [List.toFinset_cons, Finset.union_insert, Finset.insert_union]
    rw [hunion] at hall hputs
    refine ⟨?_, hall, ?_⟩
    · rw [List.countP_cons, ← hblocked, ← hanswer, Nat.add_comm]
      rfl
    · rw [List.length_cons, Nat.add_comm]
      exact hput.trans hputs

/-- So it is for a pass that starts with an empty cache. -/
theorem pass_cold {urls : List Text} (hne : ∀ url ∈ urls, url ≠ []) (stats : MatchStats) :
    let passed := pass I { stats := stats } (urls.map (request · .other))
    passed.1 = urls.countP (blocksAlone I) ∧ Knows I urls.toFinset passed.2.cache ∧
      Put urls.length ∅ stats urls.toFinset passed.2.stats := by
  have hpass := @Knows.pass I ∅ { stats := stats } (knows_empty I) urls hne
  rwa [Finset.empty_union] at hpass

end Pass

/-! ## 3. Many passes -/

section Passes

variable {I : RuleIndex} {urls : List Text}

/-- Each pass that starts with an empty cache misses every URL once. -/
theorem coldPasses_counts (hne : ∀ url ∈ urls, url ≠ []) (k : Nat) (stats : MatchStats) :
    let passed := coldPasses I (urls.map (request · .other)) k stats
    passed.1 = k * urls.countP (blocksAlone I) ∧
      passed.2.queries = stats.queries + k * urls.length ∧
      passed.2.cacheHits + k * urls.toFinset.card = stats.cacheHits + k * urls.length := by
  induction k generalizing stats with
  | zero => simp [coldPasses]
  | succ k ih =>
    obtain ⟨hblocked, -, hput⟩ := @pass_cold I urls hne stats
    have hqueries := hput.queries
    have hhits := hput.hits
    rw [Finset.card_empty] at hhits
    obtain ⟨hmore, hmoreQueries, hmoreHits⟩ :=
      ih (pass I { stats := stats } (urls.map (request · .other))).2.stats
    simp only [coldPasses, Nat.succ_mul]
    refine ⟨?_, ?_, ?_⟩ <;> omega

/-- A pass that finds all its URLs in the cache has hits only. -/
theorem cachedPasses_hit (hne : ∀ url ∈ urls, url ≠ []) (k : Nat) {known : Finset Text}
    {memory : Matcher.Memory} (h : Knows I known memory.cache) (hall : urls.toFinset ⊆ known) :
    let last := cachedPasses I (urls.map (request · .other)) k memory
    Put (k * urls.length) known memory.stats known last.stats := by
  induction k generalizing memory with
  | zero => exact ⟨by simp [cachedPasses], by simp [cachedPasses]⟩
  | succ k ih =>
    obtain ⟨-, hknows, hput⟩ := h.pass hne
    rw [Finset.union_eq_left.mpr hall] at hknows hput
    have hlength : (k + 1) * urls.length = urls.length + k * urls.length := by
      rw [Nat.succ_mul, Nat.add_comm]
    rw [hlength]
    exact hput.trans (ih hknows)

/-- Passes that share a cache miss every URL once in all. -/
theorem cachedPasses_counts (hne : ∀ url ∈ urls, url ≠ []) (k : Nat) (stats : MatchStats) :
    let last := cachedPasses I (urls.map (request · .other)) (k + 1) { stats := stats }
    Put ((k + 1) * urls.length) ∅ stats urls.toFinset last.stats := by
  obtain ⟨-, hknows, hput⟩ := @pass_cold I urls hne stats
  have hlength : (k + 1) * urls.length = urls.length + k * urls.length := by
    rw [Nat.succ_mul, Nat.add_comm]
  rw [hlength]
  exact hput.trans (cachedPasses_hit hne k hknows (Finset.Subset.refl _))

end Passes

/-! ## 4. Runs -/

/-- **The counters of a run in closed form.** Let some URLs be given, none of them empty, but
    perhaps the same one several times. With `k` passes in each of the two ways, where none counts
    as one, a run reports each request `k` times, and those that are blocked alone as blocked `k`
    times; the matcher counts both ways, and of all its queries only the first ones for each URL are
    no hits, in each of the passes with a cache of their own and in all others together. -/
theorem run_counts (I : RuleIndex) (iterations : Nat) {urls : List Text} (hsome : urls ≠ [])
    (hne : ∀ url ∈ urls, url ≠ []) :
    let result := run I iterations (requests urls)
    let k := max iterations 1
    let n := urls.length
    let d := urls.toFinset.card
    result.queries = k * n ∧ result.blocked = k * urls.countP (blocksAlone I) ∧
      result.stats.queries = 2 * k * n ∧ result.stats.cacheHits + (k + 1) * d = 2 * k * n := by
  intro result k n d
  have hrequests : requests urls = urls.map (request · .other) := by simp [requests, hsome]
  obtain ⟨passes, hk⟩ : ∃ passes, k = passes + 1 :=
    Nat.exists_eq_succ_of_ne_zero (Nat.ne_of_gt (Nat.le_max_right iterations 1))
  let cold := coldPasses I (urls.map (request · .other)) k {}
  let last := cachedPasses I (urls.map (request · .other)) k { stats := cold.2 }
  have hresult : result = ⟨k * n, cold.1, last.stats⟩ := by
    show run I iterations (requests urls) = _
    rw [hrequests, run, List.length_map]
  obtain ⟨hblocked, hcoldQueries, hcoldHits⟩ :
      cold.1 = k * urls.countP (blocksAlone I) ∧ cold.2.queries = 0 + k * n ∧
        cold.2.cacheHits + k * d = 0 + k * n := coldPasses_counts hne k {}
  obtain ⟨hqueries, hhits⟩ : Put (k * n) ∅ cold.2 urls.toFinset last.stats := by
    show Put (k * n) ∅ cold.2 urls.toFinset
      (cachedPasses I (urls.map (request · .other)) k { stats := cold.2 }).stats
    rw [hk]
    exact cachedPasses_counts hne passes cold.2
  rw [Finset.card_empty] at hhits
  have htwice : 2 * k * n = k * n + k * n := by rw [Nat.two_mul, Nat.add_mul]
  have honce : (k + 1) * d = k * d + d := Nat.succ_mul k d
  rw [hresult]
  exact ⟨rfl, hblocked, by simp only; omega, by simp only; omega⟩

/-- Three requests, the last of which is the first one again, and a rule that blocks it. -/
def repeatedUrls : List Text :=
  ["http://ads/x.js".toList, "http://news/".toList, "http://ads/x.js".toList]

/-- In two passes of either way these are twelve queries, of which six are hits. -/
theorem run_counts_repeated :
    let I := (({} : RuleSet).load 2000 "||ads^\n".toList).rules.index
    let result := run I 2 (requests repeatedUrls)
    result.queries = 6 ∧ result.blocked = 4 ∧ result.stats.queries = 12 ∧
      result.stats.cacheHits = 6 := by
  intro I result
  obtain ⟨hqueries, hblocked, hall, hhits⟩ :=
    @run_counts I 2 repeatedUrls (by decide) (by decide)
  have hcount : repeatedUrls.countP (blocksAlone I) = 2 := by decide +kernel
  have hdistinct : repeatedUrls.toFinset.card = 2 := by decide
  rw [hcount] at hblocked
  rw [hdistinct] at hhits
  have hsum : result.stats.cacheHits + 6 = 12 := hhits
  exact ⟨hqueries, hblocked, hall, by omega⟩

end Benchmark

end RequestFilter
