import RequestFilter.Proofs.Memo
import RequestFilter.Proofs.Runs

/-!
# What a tester remembers

A decision stays in the cache until the next reload, whatever rules come in meanwhile. So a tester
answers by the rules it had when it was first asked.

* `SparesNoPage`: no pattern is for third parties;
* `Session.History`: a run, cut before the first request for a URL since the last reload;
  `Recalls`: what the cache holds behind such a run, `recalls_of`;
* `query_answers`: **where no pattern is for third parties, a tester answers as its rules did at the
  cut** -- as they do now, if no fetch has ended since, and in any case if it blocks the request.

NOT here: patterns for third parties. Their decision depends on the page, and the cache does not
(`Proofs/Memo.lean`).
-/

namespace RequestFilter

/-! ## 1. Pages -/

namespace RuleIndex

/-- No pattern is for third parties only. -/
def SparesNoPage (I : RuleIndex) : Prop := ∀ id p, I.pattern id = some p → p.isThirdParty = false

theorem SparesNoPage.of_extends {I J : RuleIndex} (hJ : J.SparesNoPage) (h : Extends I J) :
    I.SparesNoPage := fun id p hp => hJ id p (h.pattern id p hp)

theorem sparesNoPage_of_all {I : RuleIndex}
    (h : I.patterns.toList.all (!·.isThirdParty) = true) : I.SparesNoPage := by
  intro id p hp
  simpa using List.all_eq_true.mp h p (mem_patterns hp)

/-- Then the page makes no difference. -/
theorem SparesNoPage.seesAlike {I : RuleIndex} (h : I.SparesNoPage) (url : Text)
    (page other : Option Text) : I.SeesAlike url page other := by
  intro id p hp hthird
  rw [h id p hp] at hthird
  cases hthird

theorem SparesNoPage.blocks {I : RuleIndex} (h : I.SparesNoPage) {url : Text} {page : Option Text}
    (hb : I.Blocks url page) (other : Option Text) : I.Blocks url other :=
  (h.seesAlike url page other).blocks hb

end RuleIndex

namespace Session

/-! ## 2. One operation -/

/-- The operation is a request for the URL that the cache takes note of. -/
def Operation.asks (url : Text) : Operation → Bool
  | .query r => decide (r.url = url ∧ r.type ≠ .document)
  | _ => false

/-- The request as the matcher sees it: an empty page URL counts as none. -/
def seen (r : Request) : Request := { r with page := r.page.filter (!·.isEmpty) }

theorem query_eq (s : Session) (r : Request) : (s.tester.query r).1 =
    (Matcher.queryInOrder s.index s.index.fullPatternIds s.tester.memory (seen r)).1 := rfl

theorem remembered_query (s : Session) (r : Request) (url : Text) :
    (s.apply (.query r)).remembered url =
      if r.url = url ∧ r.type ≠ .document ∧ r.url ≠ [] then some (s.tester.query r).1.blocked
      else s.remembered url := Matcher.cache_queryInOrder url

/-- What is not asked for is neither learnt nor forgotten. -/
theorem remembered_apply_of_not_asks {s : Session} {op : Operation} {url : Text}
    (hforgets : op.forgets = false) (hasks : op.asks url = false) :
    (s.apply op).remembered url = s.remembered url := by
  cases op with
  | query r =>
    have hno : ¬ (r.url = url ∧ r.type ≠ .document) := of_decide_eq_false hasks
    rw [remembered_query, if_neg fun h => hno ⟨h.1, h.2.1⟩]
  | _ => exact (loads_apply hforgets (by simp)).remembered url

/-- What is not asked for is neither learnt nor forgotten until a reload. -/
theorem remembered_run {s : Session} {ops : List Operation} {url : Text}
    (h : ∀ op ∈ ops, op.forgets = false ∧ op.asks url = false) :
    (s.run ops).remembered url = s.remembered url := by
  induction ops using List.reverseRecOn with
  | nil => rfl
  | append_singleton ops op ih =>
    simp only [List.mem_append, List.mem_singleton] at h
    have hop := h op (Or.inr rfl)
    rw [run_concat, remembered_apply_of_not_asks hop.1 hop.2, ih fun o ho => h o (Or.inl ho)]

/-- What is remembered stays until a reload. -/
theorem remembered_apply_of_some {s : Session} {op : Operation} {url : Text} {blocked : Bool}
    (hforgets : op.forgets = false) (h : s.remembered url = some blocked) :
    (s.apply op).remembered url = some blocked := by
  cases op with
  | query r =>
    rw [remembered_query]
    split
    · rename_i hasked
      obtain ⟨rfl, hdoc, hne⟩ := hasked
      rw [query_eq]
      exact congrArg some (Matcher.blocked_of_hit (r := seen r) hdoc hne h)
    · exact h
  | _ => rw [(loads_apply hforgets (by simp)).remembered, h]

/-- A request that is asked for the first time is answered by the index. -/
theorem remembered_of_asks {s : Session} {op : Operation} {url : Text} (hne : url ≠ [])
    (hasks : op.asks url = true) (h : s.remembered url = none) :
    ∃ blocked page, (s.apply op).remembered url = some blocked ∧
      (blocked = true ↔ s.index.Blocks url page) := by
  cases op with
  | query r =>
    obtain ⟨rfl, hdoc⟩ : r.url = url ∧ r.type ≠ .document := of_decide_eq_true hasks
    refine ⟨(s.tester.query r).1.blocked, (seen r).page, ?_, ?_⟩
    · rw [remembered_query, if_pos ⟨rfl, hdoc, hne⟩]
    · have hmiss : s.tester.memory.cache[(seen r).url]? = none := h
      rw [query_eq, RuleIndex.blocked_iff_stops (.refl _) hmiss]
      exact ⟨fun hs => hs.2.2, fun hb => ⟨hdoc, hne, hb⟩⟩
  | _ => cases hasks

/-! ## 3. Histories -/

/-- A run in two parts. -/
structure History where
  before : List Operation := []
  since : List Operation := []

namespace History

/-- All operations of a run. -/
def whole (h : History) : List Operation := h.before ++ h.since

/-- One more operation. The second part starts with the first request for the URL, and is empty
    again after a reload. -/
def extend (url : Text) (h : History) (op : Operation) : History :=
  if op.forgets then ⟨h.whole ++ [op], []⟩
  else if h.since.isEmpty && !op.asks url then ⟨h.whole ++ [op], []⟩
  else ⟨h.before, h.since ++ [op]⟩

/-- A run, cut before the first request for a URL since the last reload. -/
def of (url : Text) (ops : List Operation) : History := ops.foldl (extend url) {}

theorem of_concat (url : Text) (ops : List Operation) (op : Operation) :
    of url (ops ++ [op]) = (of url ops).extend url op := by
  rw [of, List.foldl_append]
  rfl

theorem whole_extend (url : Text) (h : History) (op : Operation) :
    (h.extend url op).whole = h.whole ++ [op] := by
  unfold extend
  split
  · exact List.append_nil _
  · split
    · exact List.append_nil _
    · exact (List.append_assoc h.before h.since [op]).symm

/-- Nothing of a run is lost. -/
theorem whole_of (url : Text) (ops : List Operation) : (of url ops).whole = ops := by
  induction ops using List.reverseRecOn with
  | nil => rfl
  | append_singleton ops op ih => rw [of_concat, whole_extend, ih]

/-- There is no reload behind the cut. -/
theorem forgets_since (url : Text) (ops : List Operation) :
    ∀ op ∈ (of url ops).since, op.forgets = false := by
  induction ops using List.reverseRecOn with
  | nil => exact fun _ h => absurd h List.not_mem_nil
  | append_singleton ops last ih =>
    intro op h
    rw [of_concat, extend] at h
    split at h
    · cases h
    · rename_i hforgets
      split at h
      · cases h
      · rcases List.mem_append.mp h with h | h
        · exact ih op h
        · rw [List.mem_singleton.mp h]
          simpa using hforgets

end History

/-- What a session knows of a URL behind a run that was cut for it: nothing if it was not asked for,
    and else what the index said at the cut, to a request from some page. -/
structure Recalls (s₀ : Session) (url : Text) (h : History) : Prop where
  unasked : h.since = [] → (s₀.run h.whole).remembered url = none
  asked : h.since ≠ [] → ∃ blocked page, (s₀.run h.whole).remembered url = some blocked ∧
    (blocked = true ↔ (s₀.run h.before).index.Blocks url page)

theorem Recalls.extend {s₀ : Session} {url : Text} (hne : url ≠ []) {h : History}
    (hr : Recalls s₀ url h) (op : Operation) : Recalls s₀ url (h.extend url op) := by
  have hrun : s₀.run (h.extend url op).whole = (s₀.run h.whole).apply op := by
    rw [History.whole_extend, run_concat]
  cases hforgets : op.forgets with
  | true =>
    have hnew : (h.extend url op).since = [] := by simp [History.extend, hforgets]
    refine ⟨fun _ => ?_, fun hs => absurd hnew hs⟩
    rw [hrun]
    exact remembered_apply_of_forgets hforgets url
  | false =>
    by_cases hsince : h.since = []
    · have hunasked := hr.unasked hsince
      cases hasks : op.asks url with
      | false =>
        have hnew : (h.extend url op).since = [] := by
          simp [History.extend, hforgets, hsince, hasks]
        refine ⟨fun _ => ?_, fun hs => absurd hnew hs⟩
        rw [hrun, remembered_apply_of_not_asks hforgets hasks, hunasked]
      | true =>
        have hnew : h.extend url op = ⟨h.whole, [op]⟩ := by
          simp [History.extend, History.whole, hforgets, hsince, hasks]
        refine ⟨fun hs => by simp [hnew] at hs, fun _ => ?_⟩
        rw [hrun, hnew]
        exact remembered_of_asks hne hasks hunasked
    · have hnew : h.extend url op = ⟨h.before, h.since ++ [op]⟩ := by
        simp [History.extend, hforgets, hsince]
      obtain ⟨blocked, page, hcached, hblocks⟩ := hr.asked hsince
      refine ⟨fun hs => by simp [hnew] at hs, fun _ => ⟨blocked, page, ?_, ?_⟩⟩
      · rw [hrun]
        exact remembered_apply_of_some hforgets hcached
      · rw [hnew]
        exact hblocks

/-- **Behind every run the cache holds what the index said at the cut.** -/
theorem recalls_of {s₀ : Session} {url : Text} (hne : url ≠ []) (h₀ : s₀.remembered url = none)
    (ops : List Operation) : Recalls s₀ url (History.of url ops) := by
  induction ops using List.reverseRecOn with
  | nil => exact ⟨fun _ => h₀, fun hs => absurd rfl hs⟩
  | append_singleton ops op ih =>
    rw [History.of_concat]
    exact ih.extend hne op

/-! ## 4. Answers -/

/-- The answer to a request whose URL is not remembered. -/
theorem query_of_unasked {s : Session} (hthird : s.index.SparesNoPage) {r : Request}
    (h : s.remembered r.url = none) : s.index.Answers r (s.tester.query r).1.blocked := by
  have hmiss : s.tester.memory.cache[(seen r).url]? = none := h
  rw [RuleIndex.answers_iff, query_eq, RuleIndex.blocked_iff_stops (.refl _) hmiss]
  exact ⟨fun hs => ⟨hs.1, hs.2.1, hthird.blocks hs.2.2 _⟩,
    fun hs => ⟨hs.1, hs.2.1, hthird.blocks hs.2.2 _⟩⟩

/-- The answer to a request whose URL is remembered. -/
theorem query_of_asked {s : Session} {I : RuleIndex} (hthird : I.SparesNoPage) {r : Request}
    (hdoc : r.type ≠ .document) (hne : r.url ≠ []) {blocked : Bool} {page : Option Text}
    (h : s.remembered r.url = some blocked) (hblocks : blocked = true ↔ I.Blocks r.url page) :
    I.Answers r (s.tester.query r).1.blocked := by
  have hhit : (s.tester.query r).1.blocked = blocked := by
    rw [query_eq]
    exact Matcher.blocked_of_hit (r := seen r) hdoc hne h
  rw [RuleIndex.answers_iff, hhit, hblocks]
  exact ⟨fun hb => ⟨hdoc, hne, hthird.blocks hb _⟩, fun hs => hthird.blocks hs.2.2 _⟩

section Cut

variable {s₀ : Session} (url : Text) (ops : List Operation)

/-- Since the cut rules only came in. -/
theorem grows_since_cut :
    (s₀.run (History.of url ops).before).index.Grows (s₀.run ops).index := by
  have hgrows := grows_run (s := s₀.run (History.of url ops).before) (History.forgets_since url ops)
  rwa [← run_append, ← History.whole, History.whole_of] at hgrows

/-- If no fetch has ended since the cut, the rules are the same. -/
theorem index_since_cut (h : ∀ op ∈ (History.of url ops).since, op.isCompletion = false) :
    (s₀.run ops).index = (s₀.run (History.of url ops).before).index := by
  have hsame := index_run (s := s₀.run (History.of url ops).before)
    fun op ho => ⟨History.forgets_since url ops op ho, h op ho⟩
  rwa [← run_append, ← History.whole, History.whole_of] at hsame

end Cut

/-- Behind every run a tester answers as its rules did at the cut. -/
theorem answers_at_cut {s₀ : Session} (h₀ : ∀ url, s₀.remembered url = none) (ops : List Operation)
    (r : Request) (hthird : (s₀.run ops).index.SparesNoPage) :
    (s₀.run (History.of r.url ops).before).index.Answers r
      ((s₀.run ops).tester.query r).1.blocked := by
  by_cases hpass : r.type = .document ∨ r.url = []
  · rw [query_eq, Matcher.blocked_of_pass (r := seen r) hpass, RuleIndex.answers_iff]
    have hno : ¬ RuleIndex.Stops (s₀.run (History.of r.url ops).before).index r := fun hs =>
      hpass.elim hs.1 hs.2.1
    simp [hno]
  rw [not_or] at hpass
  have hrecalls := recalls_of hpass.2 (h₀ r.url) ops
  have hwhole := History.whole_of r.url ops
  by_cases hsince : (History.of r.url ops).since = []
  · have hbefore : (History.of r.url ops).before = ops := by
      simpa [History.whole, hsince] using hwhole
    have hunasked := hrecalls.unasked hsince
    rw [hwhole] at hunasked
    rw [hbefore]
    exact query_of_unasked hthird hunasked
  · obtain ⟨blocked, page, hcached, hblocks⟩ := hrecalls.asked hsince
    rw [hwhole] at hcached
    exact query_of_asked (hthird.of_extends (grows_since_cut r.url ops).extends) hpass.1 hpass.2
      hcached hblocks

/-- **A tester answers by the rules it had when it was first asked.** Where no pattern is for third
    parties, the answer to a request is that of the index as it was when the URL was first asked for
    since the last reload, or as it is if it was not. A request that is blocked is one that the
    present index blocks, and if no fetch has ended since, the present index gives the same
    answer. -/
theorem query_answers {config : Config} {files : FileTree} {now : Nat} {s₀ : Session}
    (hstart : (start config files now).2 = .ok s₀) (ops : List Operation) (r : Request)
    (hthird : (s₀.run ops).index.SparesNoPage) :
    (s₀.run (History.of r.url ops).before).index.Answers r
      ((s₀.run ops).tester.query r).1.blocked ∧
    (((s₀.run ops).tester.query r).1.blocked = true → (s₀.run ops).index.Answers r true) ∧
    ((∀ op ∈ (History.of r.url ops).since, op.isCompletion = false) →
      (s₀.run ops).index.Answers r ((s₀.run ops).tester.query r).1.blocked) := by
  have hcut := answers_at_cut (remembered_start hstart) ops r hthird
  refine ⟨hcut, fun hblocked => ?_, fun hno => ?_⟩
  · rw [hblocked, RuleIndex.answers_true_iff] at hcut
    exact RuleIndex.answers_true_iff.mpr ((grows_since_cut r.url ops).extends.stops hcut)
  · rw [index_since_cut r.url ops hno]
    exact hcut

/-! ## 5. A list that comes late -/

/-- One subscription, the text of which has to be fetched. -/
def lateConfig : Config :=
  { Config.standard "/d".toList with defaultFilters := ["https://l/a".toList] }

/-- The files once the text is stored. -/
def lateFiles : FileTree where
  entries := Std.TreeMap.ofList
    [(["d".toList], Entry.directory 0), (["d".toList, "adblock".toList], Entry.directory 0),
     (["d".toList, "adblock".toList, "df7597ccacf6a24df8366acafa8c3744".toList],
      Entry.file (Text.toBytes "||ads^\n".toList) 0)]

/-- A request before the text is there. -/
def earlyRequest : Request := ⟨"http://ads/x.js".toList, none, .script⟩

/-- The request, and the end of the fetch. -/
def lateRun : List Operation :=
  [.query earlyRequest, .fileChange lateFiles,
   .completeFetch ⟨⟨"https://l/a".toList,
    "/d/adblock/df7597ccacf6a24df8366acafa8c3744".toList, 0⟩, true⟩]

theorem exists_start_late : ∃ s₀, (start lateConfig {} 0).2 = .ok s₀ ∧
    (s₀.run lateRun).index.SparesNoPage := by
  obtain ⟨s₀, hstart, hpages⟩ := exists_ok_of_map (show (start lateConfig {} 0).2.toOption.map
    (fun s => (s.run lateRun).index.patterns.toList.all (!·.isThirdParty)) = some true by
      decide +kernel)
  exact ⟨s₀, hstart, RuleIndex.sparesNoPage_of_all hpages⟩

/-- The request passes behind the run as it did before. -/
theorem early_passes {s₀ : Session} (hstart : (start lateConfig {} 0).2 = .ok s₀) :
    ((s₀.run lateRun).tester.query earlyRequest).1.blocked = false := by
  have h : (start lateConfig {} 0).2.toOption.map
      (fun s => ((s.run lateRun).tester.query earlyRequest).1.blocked) = some false := by
    decide +kernel
  rw [hstart] at h
  exact Option.some.inj h

/-- A request that is put for the first time is blocked by the late list, and the early one is
    answered by the rules there were. -/
theorem query_answers_late : ∃ s₀, (start lateConfig {} 0).2 = .ok s₀ ∧
    (s₀.run lateRun).index.Answers ⟨"http://ads/y.js".toList, none, .script⟩ true ∧
    (s₀.run (History.of earlyRequest.url lateRun).before).index.Answers earlyRequest false := by
  obtain ⟨s₀, hstart, hthird⟩ := exists_start_late
  have hnew : (start lateConfig {} 0).2.toOption.map (fun s => ((s.run lateRun).tester.query
      ⟨"http://ads/y.js".toList, none, .script⟩).1.blocked) = some true := by
    decide +kernel
  rw [hstart] at hnew
  refine ⟨s₀, hstart, ?_, ?_⟩
  · exact (query_answers hstart lateRun _ hthird).2.1 (Option.some.inj hnew)
  · have hcut := (query_answers hstart lateRun earlyRequest hthird).1
    rwa [early_passes hstart] at hcut

/-- The answer need not be that of the present index: what was decided before the text was there is
    not decided again. -/
theorem query_stale : ¬ ∀ (config : Config) (files : FileTree) (now : Nat) (s₀ : Session)
    (ops : List Operation) (r : Request), (start config files now).2 = .ok s₀ →
      (s₀.run ops).index.SparesNoPage →
      (s₀.run ops).index.Answers r ((s₀.run ops).tester.query r).1.blocked := by
  intro h
  obtain ⟨s₀, hstart, hthird⟩ := exists_start_late
  have hfresh : (start lateConfig {} 0).2.toOption.map
      (fun s => (Matcher.query (s.run lateRun).index {} earlyRequest).1.blocked) = some true := by
    decide +kernel
  rw [hstart] at hfresh
  have hyes : (Matcher.query (s₀.run lateRun).index {} earlyRequest).1.blocked = true :=
    Option.some.inj hfresh
  have hstale := h _ _ _ s₀ lateRun earlyRequest hstart hthird
  rw [RuleIndex.answers_iff_query, hyes, early_passes hstart] at hstale
  cases hstale

end Session

end RequestFilter
