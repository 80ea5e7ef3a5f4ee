import RequestFilter.Proofs.Recall

/-!
# Blocks that stay

Rules that come in never lift a block, and a tester forgets its decisions together with its rules.
So what a tester remembers as blocked is blocked by rules it still has.

* `RuleIndex.Grows.answers`: **what an index blocks it blocks as it grows**;
* `Session.Upheld`: what is remembered as blocked is blocked by the present index, from some page;
  `Upheld.apply` keeps this at each operation, and `upheld_run` at each run;
* `blocks_kept`: both, and so **a URL that is remembered as blocked is matched by a pattern that is
  still there**.

NOT here: what is remembered as passed. A rule that comes in later may well match it
(`Proofs/Recall.lean`).
-/

namespace RequestFilter

/-- **What an index blocks it blocks as it grows.** -/
theorem RuleIndex.Grows.answers {I J : RuleIndex} (h : I.Grows J) {r : Request}
    (hr : I.Answers r true) : J.Answers r true :=
  answers_true_iff.mpr (h.extends.stops (answers_true_iff.mp hr))

namespace Session

/-! ## 1. One operation -/

/-- What is remembered as blocked is blocked by the present index, from some page. -/
def Upheld (s : Session) : Prop :=
  ∀ url, s.remembered url = some true → ∃ page, s.index.Blocks url page

theorem upheld_of_unremembered {s : Session} (h : ∀ url, s.remembered url = none) : Upheld s := by
  intro url hurl
  rw [h url] at hurl
  cases hurl

/-- A request is blocked by what is remembered, or else by the index. -/
theorem Upheld.query {s : Session} (h : Upheld s) (r : Request) : Upheld (s.apply (.query r)) := by
  intro url hurl
  show ∃ page, s.index.Blocks url page
  rw [remembered_query] at hurl
  split at hurl
  · rename_i hasked
    obtain ⟨rfl, hdoc, hne⟩ := hasked
    have hblocked : (s.tester.query r).1.blocked = true := Option.some.inj hurl
    cases hcached : s.remembered r.url with
    | some blocked =>
      have hhit : (s.tester.query r).1.blocked = blocked := by
        rw [query_eq]
        exact Matcher.blocked_of_hit (r := seen r) hdoc hne hcached
      obtain rfl := hhit.symm.trans hblocked
      exact h r.url hcached
    | none =>
      have hmiss : s.tester.memory.cache[(seen r).url]? = none := hcached
      rw [query_eq, RuleIndex.blocked_iff_stops (.refl _) hmiss] at hblocked
      exact ⟨(seen r).page, hblocked.2.2⟩
  · exact h url hurl

/-- **Every operation keeps it**: a reload forgets what is remembered, and whatever else there is
    only adds rules. -/
theorem Upheld.apply {s : Session} (h : Upheld s) (op : Operation) : Upheld (s.apply op) := by
  cases hforgets : op.forgets with
  | true => exact upheld_of_unremembered (remembered_apply_of_forgets hforgets)
  | false =>
    by_cases hquery : ∃ r, op = .query r
    · obtain ⟨r, rfl⟩ := hquery
      exact h.query r
    · have hloads := loads_apply (s := s) hforgets fun r hr => hquery ⟨r, hr⟩
      intro url hurl
      rw [hloads.remembered] at hurl
      obtain ⟨page, hblocks⟩ := h url hurl
      exact ⟨page, hloads.grows.extends.blocks hblocks⟩

/-! ## 2. Runs -/

theorem upheld_run {s : Session} (h : Upheld s) (ops : List Operation) : Upheld (s.run ops) := by
  induction ops using List.reverseRecOn with
  | nil => exact h
  | append_singleton ops op ih =>
    rw [run_concat]
    exact ih.apply op

/-- **Rules that come in lift no block, and no block outlives its rules.** What an index blocks it
    blocks as it grows; and behind every run of a tester each URL that is remembered as blocked is
    matched by a pattern of the present index. -/
theorem blocks_kept :
    (∀ {I J : RuleIndex}, I.Grows J → ∀ r, I.Answers r true → J.Answers r true) ∧
    ∀ {config : Config} {files : FileTree} {now : Nat} {s₀ : Session},
      (start config files now).2 = .ok s₀ → ∀ (ops : List Operation) (url : Text),
        (s₀.run ops).remembered url = some true →
          ∃ id p, (s₀.run ops).index.pattern id = some p ∧ p.matchesIn url = true := by
  refine ⟨fun hgrows r hr => hgrows.answers hr, ?_⟩
  intro config files now s₀ hstart ops url hurl
  have hupheld := upheld_run (upheld_of_unremembered (remembered_start hstart)) ops
  obtain ⟨page, id, p, -, hp, hconfirmed⟩ := hupheld url hurl
  exact ⟨id, p, hp, (Matcher.check_iff.mp hconfirmed).1⟩

/-- A list, and another one behind it. -/
def adsRules : RuleSet := (({} : RuleSet).load 2000 "||ads^\n".toList).rules
def moreRules : RuleSet := (adsRules.load 2000 "||news^\n".toList).rules

/-- A request for the site of the list. -/
def adsRequest : Request := ⟨"http://ads/y.js".toList, none, .script⟩

/-- The request behind the end of the fetch, and another end of it. -/
def blockedRun : List Operation := lateRun ++ .query adsRequest :: lateRun.drop 2

/-- The second list does not lift the block of the first, and behind the run the request is
    remembered as blocked, with its pattern there. -/
theorem blocks_kept_late :
    (adsRules.index.Grows moreRules.index ∧ adsRules.index.Answers adsRequest true ∧
      moreRules.index.Answers adsRequest true) ∧
    ∃ s₀, (start lateConfig {} 0).2 = .ok s₀ ∧
      (s₀.run blockedRun).remembered adsRequest.url = some true ∧
      ∃ id p, (s₀.run blockedRun).index.pattern id = some p ∧
        p.matchesIn adsRequest.url = true := by
  have hgrows : adsRules.index.Grows moreRules.index := .list .refl 2000 _
  have hads : adsRules.index.Answers adsRequest true := by
    rw [RuleIndex.answers_iff_query]
    decide +kernel
  obtain ⟨s₀, hstart, hblocked⟩ := exists_ok_of_map (show (start lateConfig {} 0).2.toOption.map
    (fun s => (s.run blockedRun).remembered adsRequest.url) = some (some true) by decide +kernel)
  exact ⟨⟨hgrows, hads, blocks_kept.1 hgrows adsRequest hads⟩, s₀, hstart, hblocked,
    blocks_kept.2 hstart blockedRun adsRequest.url hblocked⟩

end Session

end RequestFilter
