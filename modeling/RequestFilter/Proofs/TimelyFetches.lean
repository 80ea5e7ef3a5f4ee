import RequestFilter.Proofs.Reloads

/-!
# Fetches that count

The end of a fetch changes the rules only if the fetch is of the generation that goes on, its source
is subscribed to, it succeeded and its text can be read. All else that a host may report -- ends
that come in late, twice, or for sources that nobody subscribes to any more -- is without effect on
them, and what is late is without effect on anything.

* `Session.Agrees`: only the reports differ; `Agrees.apply`: **no operation looks at the reports**;
* `Session.timely`: a run without the ends of fetches that are outdated when they come in, and
  `Session.answers`: what it answers;
* `timely_fetches_count`: **what each kind of end does, and that a run does without those that are
  outdated**.

NOT here: that the source is waited for again behind a reload (`Proofs/Fetches.lean`).
-/

namespace RequestFilter

namespace Session

/-! ## 1. Reports -/

attribute [ext] Tester

/-- Only the reports differ. -/
structure Agrees (s t : Session) : Prop where
  tester : t.tester = s.tester
  files : t.files = s.files

section Agrees

variable {s t : Session}

theorem Agrees.symm (h : Agrees s t) : Agrees t s := ⟨h.tester.symm, h.files.symm⟩

theorem Agrees.trans {u : Session} (h : Agrees s t) (h' : Agrees t u) : Agrees s u :=
  ⟨h'.tester.trans h.tester, h'.files.trans h.files⟩

/-- A reload does not look at the reports. -/
theorem Agrees.reload (h : Agrees s t) (now : Nat) : Agrees (s.reload now) (t.reload now) := by
  obtain ⟨events, hs⟩ := exists_of_reload s now
  obtain ⟨events', ht⟩ := exists_of_reload t now
  rw [h.tester, h.files] at ht
  rw [hs, ht]
  generalize Subscription.withoutCacheFiles s.files s.tester.adblockDir = left
  have hblank : Blank ⟨s.tester.anew, left, events⟩ := ⟨rfl, rfl, rfl, rfl⟩
  have hblank' : Blank ⟨s.tester.anew, left, events'⟩ := ⟨rfl, rfl, rfl, rfl⟩
  have hrenewed := hblank.renewed hblank' rfl rfl rfl now
  have hkeeps := keeps_loadSubscriptions ⟨s.tester.anew, left, events⟩ now
  have hkeeps' := keeps_loadSubscriptions ⟨s.tester.anew, left, events'⟩ now
  have hgeneration := hkeeps'.generation.trans hkeeps.generation.symm
  obtain ⟨asked, hasked, hasked'⟩ := hrenewed.asked
  refine ⟨Tester.ext (hkeeps'.config.trans hkeeps.config.symm)
    (hkeeps'.filters.trans hkeeps.filters.symm) hrenewed.rules
    (hkeeps'.memory.trans hkeeps.memory.symm) hrenewed.loadStats hgeneration hrenewed.pending
    hrenewed.state ?_, hrenewed.files⟩
  rw [hasked, hasked', hgeneration]

theorem Agrees.completeFetch (h : Agrees s t) (c : FetchCompletion) :
    Agrees (s.completeFetch c) (t.completeFetch c) where
  tester := by rw [tester_completeFetch, tester_completeFetch, h.tester, h.files]
  files := by rw [(keeps_completeFetch s c).files, (keeps_completeFetch t c).files, h.files]

theorem Agrees.setFilters (h : Agrees s t) (now : Nat) (filters : List Text) :
    Agrees (s.setFilters now filters).1 (t.setFilters now filters).1 := by
  unfold Session.setFilters
  rw [h.tester, h.files]
  simp only
  split <;> exact ⟨rfl, rfl⟩

theorem Agrees.editFilters (h : Agrees s t) (now : Nat) (filters : List Text) :
    Agrees (s.editFilters now filters) (t.editFilters now filters) := by
  obtain ⟨htester, hfiles⟩ := h.setFilters now filters
  obtain ⟨told, -, hs⟩ := exists_of_editFilters s now filters
  obtain ⟨told', -, ht⟩ := exists_of_editFilters t now filters
  have hset : Agrees { (s.setFilters now filters).1 with events := s.events ++ told }
      { (t.setFilters now filters).1 with events := t.events ++ told' } := ⟨htester, hfiles⟩
  rw [hs, ht]
  exact hset.reload now

/-- **No operation looks at the reports.** -/
theorem Agrees.apply (h : Agrees s t) (op : Operation) : Agrees (s.apply op) (t.apply op) := by
  cases op with
  | query r => exact ⟨congrArg (fun tester => (tester.query r).2) h.tester, h.files⟩
  | setFilters now filters => exact h.setFilters now filters
  | reload now => exact h.reload now
  | editFilters now filters => exact h.editFilters now filters
  | completeFetch c => exact h.completeFetch c
  | fileChange files => exact ⟨h.tester, rfl⟩

end Agrees

/-! ## 2. Runs -/

/-- The end of a fetch of another generation than goes on. -/
def Operation.isOutdated (s : Session) : Operation → Bool
  | .completeFetch c => c.request.generation != s.tester.generation
  | _ => false

/-- The operations without the ends of fetches that are outdated when they come in. -/
def timely (s : Session) : List Operation → List Operation
  | [] => []
  | op :: ops => if op.isOutdated s then (s.apply op).timely ops else op :: (s.apply op).timely ops

/-- The answers to the queries among operations. -/
def answers (s : Session) : List Operation → List Decision
  | [] => []
  | .query r :: ops => (s.tester.query r).1 :: (s.apply (.query r)).answers ops
  | op :: ops => (s.apply op).answers ops

/-- The end of an outdated fetch is worth a report, no more. -/
theorem agrees_apply_of_isOutdated {s : Session} {op : Operation} (h : op.isOutdated s = true) :
    Agrees s (s.apply op) := by
  cases op with
  | completeFetch c =>
    have hother : c.request.generation ≠ s.tester.generation := bne_iff_ne.mp h
    refine ⟨?_, (keeps_completeFetch s c).files⟩
    show (s.completeFetch c).tester = s.tester
    rw [tester_completeFetch, Tester.fetchEnds, if_pos hother]
  | _ => cases h

/-- **A run does without the ends of fetches that are outdated.** Who agrees with a session and
    leaves them out answers alike and agrees with it in the end. -/
theorem Agrees.run_timely {s t : Session} (h : Agrees s t) (ops : List Operation) :
    Agrees (s.run ops) (t.run (s.timely ops)) ∧ t.answers (s.timely ops) = s.answers ops := by
  induction ops generalizing s t with
  | nil => exact ⟨h, rfl⟩
  | cons op ops ih =>
    rw [timely]
    split
    · rename_i houtdated
      have hreported := agrees_apply_of_isOutdated houtdated
      obtain ⟨hagrees, hanswers⟩ := ih (hreported.symm.trans h)
      refine ⟨hagrees, hanswers.trans ?_⟩
      cases op with
      | completeFetch c => rfl
      | _ => cases houtdated
    · obtain ⟨hagrees, hanswers⟩ := ih (h.apply op)
      refine ⟨hagrees, ?_⟩
      cases op with
      | query r => exact congrArg₂ List.cons (by rw [h.tester]) hanswers
      | _ => exact hanswers

/-- **Only a fetch of this generation, of a subscription, that succeeded and is stored counts.**
    The end of a fetch changes no file. If the fetch is outdated, the tester stays as it is. If its
    source is not subscribed to, or it failed, or what it stored cannot be read, the source is not
    waited for any more, and that is all. Otherwise the text is taken in as well. And whatever is
    done to the session, its tester, its files and its answers are the same without the ends of
    fetches that are outdated. -/
theorem timely_fetches_count (s : Session) :
    (∀ c, (s.completeFetch c).files = s.files) ∧
    (∀ c, c.request.generation ≠ s.tester.generation → (s.completeFetch c).tester = s.tester) ∧
    (∀ c, c.request.generation = s.tester.generation →
      (c.request.sourceUrl ∉ s.tester.filters ∨ c.success = false ∨
        ∃ e, s.files.read c.request.destination = .error e) →
      (s.completeFetch c).tester = s.tester.stopWaiting c.request.sourceUrl) ∧
    (∀ c content, c.request.generation = s.tester.generation →
      c.request.sourceUrl ∈ s.tester.filters → c.success = true →
      s.files.read c.request.destination = .ok content →
      (s.completeFetch c).tester =
        (s.tester.stopWaiting c.request.sourceUrl).takeIn c.request.destination content) ∧
    ∀ ops, (s.run (s.timely ops)).tester = (s.run ops).tester ∧
      (s.run (s.timely ops)).files = (s.run ops).files ∧
      s.answers (s.timely ops) = s.answers ops := by
  refine ⟨fun c => (keeps_completeFetch s c).files, fun c hother => ?outdated,
    fun c hsame hidle => ?idle, fun c content hsame hsubscribed hsuccess hread => ?counts,
    fun ops => ?run⟩
  case outdated => rw [tester_completeFetch, Tester.fetchEnds, if_pos hother]
  case idle =>
    rw [tester_completeFetch, Tester.fetchEnds, if_neg (not_not.mpr hsame)]
    split
    · rfl
    · rename_i hsubscribed
      split
      · rfl
      · rename_i hsuccess
        obtain hunsubscribed | hfailed | ⟨e, hread⟩ := hidle
        · exact absurd (by simp [hunsubscribed]) hsubscribed
        · exact absurd (by rw [hfailed]; rfl) hsuccess
        · rw [hread]
  case counts =>
    rw [tester_completeFetch, Tester.fetchEnds, if_neg (not_not.mpr hsame),
      if_neg (by simp [hsubscribed]), if_neg (by simp [hsuccess]), hread]
  case run =>
    obtain ⟨⟨htester, hfiles⟩, hanswers⟩ := Agrees.run_timely (s := s) ⟨rfl, rfl⟩ ops
    exact ⟨htester, hfiles, hanswers⟩

/-- Behind a reload the first fetch of a subscription ends, and then the second; a request before
    and one after that. -/
def twiceFetched : List Operation :=
  [.completeFetch ⟨lateFetch 0, true⟩, .query earlyRequest, .completeFetch ⟨lateFetch 1, true⟩,
   .query ⟨"http://ads/y.js".toList, none, .script⟩]

/-- The first end is outdated, and the second counts unless the fetch failed. -/
theorem timely_fetches_count_twice : ∃ s₀, (start lateConfig {} 0).2 = .ok s₀ ∧
    let s := s₀.run [.reload 0, .fileChange lateFiles]
    (s.completeFetch ⟨lateFetch 0, true⟩).tester = s.tester ∧
    (s.completeFetch ⟨lateFetch 1, false⟩).tester =
      s.tester.stopWaiting (lateFetch 1).sourceUrl ∧
    (s.completeFetch ⟨lateFetch 1, true⟩).tester =
      (s.tester.stopWaiting (lateFetch 1).sourceUrl).takeIn (lateFetch 1).destination
        (Text.toBytes "||ads^\n".toList) ∧
    (s.timely twiceFetched).length = 3 ∧
    (s.answers (s.timely twiceFetched)).map (·.blocked) = [false, true] := by
  obtain ⟨s₀, hstart, hfacts⟩ := exists_ok_of_map (show (start lateConfig {} 0).2.toOption.map
    (fun s₀ =>
      let s := s₀.run [.reload 0, .fileChange lateFiles]
      (s.tester.generation, s.tester.filters, (s.timely twiceFetched).length,
        (s.answers twiceFetched).map (·.blocked))) =
      some (1, [(lateFetch 1).sourceUrl], 3, [false, true]) by decide +kernel)
  simp only [Prod.mk.injEq] at hfacts
  obtain ⟨hgeneration, hfilters, hlength, hblocked⟩ := hfacts
  obtain ⟨-, houtdated, hidle, hcounts, hrun⟩ :=
    timely_fetches_count (s₀.run [.reload 0, .fileChange lateFiles])
  have hread : lateFiles.read (lateFetch 1).destination =
      .ok (Text.toBytes "||ads^\n".toList) := by decide +kernel
  rw [hgeneration] at houtdated hidle hcounts
  rw [hfilters] at hidle hcounts
  refine ⟨s₀, hstart, houtdated _ (by decide), hidle _ rfl (.inr (.inl rfl)),
    hcounts _ _ rfl (List.mem_singleton_self _) rfl hread, hlength, ?_⟩
  rw [(hrun twiceFetched).2.2]
  exact hblocked

end Session

end RequestFilter
