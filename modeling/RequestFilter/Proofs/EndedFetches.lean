import Mathlib.Data.List.DropRight
import RequestFilter.Proofs.Fetches

/-!
# Ready testers

A tester waits for sources, and asks for fetches: one for each subscription, also where the same
source is listed twice. So when every fetch ends at most once, and none that was not asked for, the
first end of a fetch of a source is the end of the waiting for it.

* `Ledger.Current`: a fetch of the generation that goes on, by its position;
* `Honest`: a run in which only fetches end that were asked for, each at most once, and the
  positions of those that did;
* `Accounted`: a source is waited for as long as no fetch of it has ended, `accounted_of_honest`;
* `Ledger.asked`, `uptoReload`: the sources that were asked for, and where their generation began;
* `ready_iff_ended`: **a tester is ready exactly if of every source that it asked for some fetch has
  ended** -- so if all have, and not before, where no source was listed twice;
* `ready_too_early`: else it may be ready while a fetch is outstanding.
-/

namespace RequestFilter

namespace Session

/-! ## 1. Fetches by their position -/

/-- The fetch at a position is one of the source in the generation that goes on. -/
def Ledger.Current (l : Ledger) (i : Nat) (url : Text) : Prop :=
  ∃ q, l.requests[i]? = some q ∧ q.generation = l.generation ∧ q.sourceUrl = url

theorem Ledger.current_iff_of_getElem? {l : Ledger} {i : Nat} {q : FetchRequest} {url : Text}
    (h : l.requests[i]? = some q) :
    l.Current i url ↔ q.generation = l.generation ∧ q.sourceUrl = url := by
  simp [Current, h]

/-- The end of a fetch does not change which fetches there are. -/
theorem Ledger.current_fetchEnds {l : Ledger} {q : FetchRequest} {i : Nat} {url : Text} :
    (l.fetchEnds q).Current i url ↔ l.Current i url := by
  obtain ⟨hgeneration, hrequests⟩ := l.fetchEnds_requests q
  rw [Current, Current, hgeneration, hrequests]

section Begins

variable {old new : List FetchRequest} {t : Session}

/-- Where a generation begins, its fetches are the new ones. -/
theorem Begins.exists_current (h : Begins old new t)
    (hold : ∀ q ∈ old, q.generation < t.tester.generation) {url : Text} :
    (∃ i, t.ledger.Current i url) ↔ url ∈ new.map (·.sourceUrl) := by
  constructor
  · intro hx
    obtain ⟨i, q, hi, hcurrent, hsource⟩ := hx
    have hq : q ∈ t.tester.requests := List.mem_of_getElem? hi
    rw [h.requests, List.mem_append] at hq
    rcases hq with hq | hq
    · exact absurd hcurrent (Nat.ne_of_lt (hold q hq))
    · exact List.mem_map.mpr ⟨q, hq, hsource⟩
  · intro hurl
    obtain ⟨q, hq, hsource⟩ := List.mem_map.mp hurl
    have hmem : q ∈ t.tester.requests := by
      rw [h.requests]
      exact List.mem_append_right old hq
    obtain ⟨i, hi⟩ := List.mem_iff_getElem?.mp hmem
    exact ⟨i, q, hi, h.current q hq, hsource⟩

/-- The old ones are not among them. -/
theorem Begins.not_current (h : Begins old new t)
    (hold : ∀ q ∈ old, q.generation < t.tester.generation) {i : Nat} (hi : i < old.length)
    (url : Text) : ¬ t.ledger.Current i url := by
  intro hx
  obtain ⟨q, hq, hcurrent, -⟩ := hx
  have hrequests : t.ledger.requests = old ++ new := h.requests
  rw [hrequests, List.getElem?_append_left hi] at hq
  exact absurd hcurrent (Nat.ne_of_lt (hold q (List.mem_of_getElem? hq)))

end Begins

/-! ## 2. Runs -/

/-- A run in which only fetches end that were asked for, each at most once, with the positions of
    those that have ended. -/
inductive Honest (s₀ : Session) : List Operation → List Nat → Prop
  | start : Honest s₀ [] []
  | other {ops : List Operation} {ended : List Nat} {op : Operation} (h : Honest s₀ ops ended)
      (hop : op.isCompletion = false) : Honest s₀ (ops ++ [op]) ended
  | completion {ops : List Operation} {ended : List Nat} {i : Nat} {q : FetchRequest}
      (h : Honest s₀ ops ended) (hi : (s₀.run ops).tester.requests[i]? = some q)
      (hnew : i ∉ ended) (success : Bool) :
      Honest s₀ (ops ++ [.completeFetch ⟨q, success⟩]) (i :: ended)

/-- What is waited for are the sources that were asked for and of which no fetch has ended. -/
structure Accounted (l : Ledger) (ended : List Nat) : Prop where
  issued : ∀ i ∈ ended, i < l.requests.length
  pending : ∀ url, url ∈ l.pending ↔ (∃ i, l.Current i url) ∧ ∀ i ∈ ended, ¬ l.Current i url

theorem Begins.accounted {old new : List FetchRequest} {t : Session} (h : Begins old new t)
    (hold : ∀ q ∈ old, q.generation < t.tester.generation) {ended : List Nat}
    (hended : ∀ i ∈ ended, i < old.length) : Accounted t.ledger ended where
  issued i hi := by
    have hrequests : t.ledger.requests = old ++ new := h.requests
    rw [hrequests, List.length_append]
    exact Nat.lt_add_right _ (hended i hi)
  pending url := by
    rw [h.exists_current hold]
    exact (h.pending url).trans
      (and_iff_left fun i hi => h.not_current hold (hended i hi) url).symm

/-- The end of a fetch that was asked for takes its source out of what is waited for. -/
theorem Accounted.fetchEnds {l : Ledger} {ended : List Nat} (h : Accounted l ended) {i : Nat}
    {q : FetchRequest} (hi : l.requests[i]? = some q) :
    Accounted (l.fetchEnds q) (i :: ended) where
  issued j hj := by
    rw [(l.fetchEnds_requests q).2]
    rcases List.mem_cons.mp hj with rfl | hj
    · exact (List.getElem?_eq_some_iff.mp hi).1
    · exact h.issued j hj
  pending url := by
    simp only [Ledger.mem_fetchEnds, Ledger.current_fetchEnds, h.pending, List.forall_mem_cons,
      Ledger.current_iff_of_getElem? hi, and_assoc]
    exact and_congr_right fun _ => and_comm

/-- **A source is waited for as long as no fetch of it has ended.** -/
theorem accounted_of_honest {config : Config} {files : FileTree} {now : Nat} {s₀ : Session}
    (hstart : (start config files now).2 = .ok s₀) {ops : List Operation} {ended : List Nat}
    (h : s₀.Honest ops ended) : Accounted (s₀.run ops).ledger ended := by
  induction h with
  | start =>
    obtain ⟨new, hbegins⟩ := begins_start hstart
    exact hbegins.accounted (by simp) (by simp)
  | @other ops ended op _ hop ih =>
    cases hforgets : op.forgets with
    | true =>
      obtain ⟨new, hbegins, hold⟩ := (sound_run hstart ops).begins hforgets
      -- what has ended by now was asked for in an earlier generation
      exact hbegins.accounted hold ih.issued
    | false =>
      rw [ledger_run_concat s₀ ops hforgets hop]
      exact ih
  | @completion ops ended i q _ hi _ success ih =>
    rw [ledger_run_completeFetch]
    exact ih.fetchEnds hi

/-! ## 3. Subscriptions -/

/-- The sources of the fetches of the generation that goes on. -/
def Ledger.asked (l : Ledger) : List Text :=
  (l.requests.filter fun q => q.generation == l.generation).map (·.sourceUrl)

theorem Ledger.asked_fetchEnds (l : Ledger) (q : FetchRequest) :
    (l.fetchEnds q).asked = l.asked := by
  obtain ⟨hgeneration, hrequests⟩ := l.fetchEnds_requests q
  rw [asked, asked, hgeneration, hrequests]

/-- The operations up to the last reload. -/
def uptoReload (ops : List Operation) : List Operation := ops.rdropWhile (!·.forgets)

theorem Begins.asked {old new : List FetchRequest} {t : Session} (h : Begins old new t)
    (hold : ∀ q ∈ old, q.generation < t.tester.generation) :
    t.ledger.asked = new.map (·.sourceUrl) := by
  have hrequests : t.ledger.requests = old ++ new := h.requests
  have hnone : old.filter (fun q => q.generation == t.ledger.generation) = [] := by
    refine List.filter_eq_nil_iff.mpr fun q hq => ?_
    rw [beq_iff_eq]
    exact Nat.ne_of_lt (hold q hq)
  have hall : new.filter (fun q => q.generation == t.ledger.generation) = new := by
    refine List.filter_eq_self.mpr fun q hq => ?_
    rw [beq_iff_eq]
    exact h.current q hq
  rw [Ledger.asked, hrequests, List.filter_append, hnone, hall, List.nil_append]

/-- **Every fetch of a generation is for an entry of the subscriptions that it began with.** -/
theorem asked_sublist {config : Config} {files : FileTree} {now : Nat} {s₀ : Session}
    (hstart : (start config files now).2 = .ok s₀) (ops : List Operation) :
    (s₀.run ops).ledger.asked.Sublist (s₀.run (uptoReload ops)).tester.filters := by
  induction ops using List.reverseRecOn with
  | nil =>
    obtain ⟨new, hbegins⟩ := begins_start hstart
    have hasked : (s₀.run []).ledger.asked = new.map (·.sourceUrl) := hbegins.asked (by simp)
    rw [hasked]
    exact hbegins.listed
  | append_singleton ops op ih =>
    rcases op.kinds with hforgets | ⟨hforgets, hcompletion⟩ | ⟨c, rfl⟩
    · obtain ⟨new, hbegins, hold⟩ := (sound_run hstart ops).begins hforgets
      have hupto : uptoReload (ops ++ [op]) = ops ++ [op] :=
        List.rdropWhile_concat_neg _ _ _ (by simp [hforgets])
      rw [hupto, hbegins.asked hold]
      exact hbegins.listed
    · have hupto : uptoReload (ops ++ [op]) = uptoReload ops :=
        List.rdropWhile_concat_pos _ _ _ (by simp [hforgets])
      rwa [hupto, ledger_run_concat s₀ ops hforgets hcompletion]
    · have hupto : uptoReload (ops ++ [.completeFetch c]) = uptoReload ops :=
        List.rdropWhile_concat_pos _ _ _ rfl
      rwa [hupto, ledger_run_completeFetch, Ledger.asked_fetchEnds]

/-- If no source was asked for twice, there is one fetch of each. -/
theorem Ledger.not_lt_of_current {l : Ledger} (h : l.asked.Nodup) {i j : Nat} {url : Text}
    (hi : l.Current i url) (hj : l.Current j url) : ¬ i < j := by
  obtain ⟨q, hq, hcurrent, hsource⟩ := hi
  obtain ⟨q', hq', hcurrent', hsource'⟩ := hj
  obtain ⟨hilt, rfl⟩ := List.getElem?_eq_some_iff.mp hq
  obtain ⟨hjlt, rfl⟩ := List.getElem?_eq_some_iff.mp hq'
  have hdifferent : l.requests.Pairwise fun q q' => (q.generation == l.generation) = true →
      (q'.generation == l.generation) = true → q.sourceUrl ≠ q'.sourceUrl := by
    rw [← List.pairwise_filter, ← List.pairwise_map]
    exact h
  intro hlt
  exact List.pairwise_iff_getElem.mp hdifferent i j hilt hjlt hlt (beq_iff_eq.mpr hcurrent)
    (beq_iff_eq.mpr hcurrent') (hsource.trans hsource'.symm)

theorem Ledger.current_unique {l : Ledger} (h : l.asked.Nodup) {i j : Nat} {url : Text}
    (hi : l.Current i url) (hj : l.Current j url) : i = j :=
  Nat.le_antisymm (Nat.le_of_not_lt (not_lt_of_current h hj hi))
    (Nat.le_of_not_lt (not_lt_of_current h hi hj))

/-! ## 4. Readiness -/

theorem Ledger.Settled.ready_iff_pending {l : Ledger} (h : l.Settled) :
    l.state = .ready ↔ ∀ url, url ∉ l.pending := by
  rw [← List.eq_nil_iff_forall_not_mem, h]
  by_cases hpending : l.pending = []
  · simp [hpending]
  · simp [hpending]

/-- Nothing is waited for once some fetch of every source has ended. -/
theorem Accounted.ready_iff_some_ended {l : Ledger} {ended : List Nat} (h : Accounted l ended)
    (hsettled : l.Settled) :
    l.state = .ready ↔ ∀ i url, l.Current i url → ∃ j ∈ ended, l.Current j url := by
  rw [hsettled.ready_iff_pending]
  simp only [h.pending, not_and, not_forall, not_not, exists_prop]
  exact ⟨fun hnone i url hi => hnone url ⟨i, hi⟩, fun hall url hx => hx.elim fun i => hall i url⟩

/-- **A tester is ready exactly if of every source that it asked for in this generation some fetch
    has ended**, where only fetches end that were asked for, each at most once. So it is ready once
    all fetches of the generation have ended. And where the subscriptions that the generation began
    with have no source twice, it is not ready before. -/
theorem ready_iff_ended {config : Config} {files : FileTree} {now : Nat} {s₀ : Session}
    (hstart : (start config files now).2 = .ok s₀) {ops : List Operation} {ended : List Nat}
    (h : s₀.Honest ops ended) :
    let t := s₀.run ops
    (t.tester.state = .ready ↔
      ∀ i url, t.ledger.Current i url → ∃ j ∈ ended, t.ledger.Current j url) ∧
    ((∀ i url, t.ledger.Current i url → i ∈ ended) → t.tester.state = .ready) ∧
    ((s₀.run (uptoReload ops)).tester.filters.Nodup →
      (t.tester.state = .ready ↔ ∀ i url, t.ledger.Current i url → i ∈ ended)) := by
  intro t
  have hready : t.tester.state = .ready ↔
      ∀ i url, t.ledger.Current i url → ∃ j ∈ ended, t.ledger.Current j url :=
    (accounted_of_honest hstart h).ready_iff_some_ended (sound_run hstart ops).settled
  have hall : (∀ i url, t.ledger.Current i url → i ∈ ended) → t.tester.state = .ready :=
    fun hended => hready.mpr fun i url hi => ⟨i, hended i url hi, hi⟩
  refine ⟨hready, hall, fun hfilters => ⟨fun hstate i url hi => ?_, hall⟩⟩
  obtain ⟨j, hj, hcurrent⟩ := hready.mp hstate i url hi
  rwa [Ledger.current_unique (hfilters.sublist (asked_sublist hstart ops)) hi hcurrent]

/-- A configuration with subscriptions of its own. -/
def subscribedTo (filters : List Text) : Config :=
  { Config.standard "/d".toList with defaultFilters := filters }

/-- A fetch of another source than that of `lateFetch`. -/
def otherFetch (generation : Nat) : FetchRequest :=
  ⟨"https://l/b".toList, "/d/adblock/c7276f68f814f6224230d3a7e4061532".toList, generation⟩

/-- One of two fetches fails, then there is a reload; of the next two the second ends first. -/
def crossedRun : List Operation :=
  [.completeFetch ⟨otherFetch 0, false⟩, .reload 0, .completeFetch ⟨otherFetch 1, false⟩,
   .completeFetch ⟨lateFetch 1, false⟩]

/-- Behind these the tester is ready, and all fetches of the second generation have ended. -/
theorem ready_iff_ended_crossed : ∃ s₀,
    (start (subscribedTo ["https://l/a".toList, "https://l/b".toList]) {} 0).2 = .ok s₀ ∧
    s₀.Honest crossedRun [2, 3, 1] ∧ (s₀.run crossedRun).tester.state = .ready ∧
    ∀ i url, (s₀.run crossedRun).ledger.Current i url → i ∈ [2, 3, 1] := by
  obtain ⟨s₀, hstart, hfacts⟩ := exists_ok_of_map (show
    (start (subscribedTo ["https://l/a".toList, "https://l/b".toList]) {} 0).2.toOption.map
      (fun s => ([0, 2, 3].map fun n => (s.run (crossedRun.take n)).tester.requests,
        (s.run crossedRun).tester.state, (s.run (uptoReload crossedRun)).tester.filters)) =
    some ([[lateFetch 0, otherFetch 0], [lateFetch 0, otherFetch 0, lateFetch 1, otherFetch 1],
      [lateFetch 0, otherFetch 0, lateFetch 1, otherFetch 1]], .ready,
      ["https://l/a".toList, "https://l/b".toList]) by decide +kernel)
  simp only [List.map_cons, List.map_nil, Prod.mk.injEq, List.cons.injEq, and_true] at hfacts
  obtain ⟨⟨hfirst, hsecond, hthird⟩, hready, hfilters⟩ := hfacts
  have hone : s₀.Honest (crossedRun.take 1) [1] :=
    .completion .start (q := otherFetch 0) (congrArg (·[1]?) hfirst) (by simp) false
  have htwo : s₀.Honest (crossedRun.take 2) [1] := hone.other rfl
  have hthree : s₀.Honest (crossedRun.take 3) [3, 1] :=
    htwo.completion (congrArg (·[3]?) hsecond) (by simp) false
  have hhonest : s₀.Honest crossedRun [2, 3, 1] :=
    hthree.completion (congrArg (·[2]?) hthird) (by simp) false
  obtain ⟨-, -, hiff⟩ := ready_iff_ended hstart hhonest
  exact ⟨s₀, hstart, hhonest, hready, (hiff (hfilters ▸ by decide)).mp hready⟩

/-- Where a source is listed twice, a tester may be ready while a fetch is outstanding. -/
theorem ready_too_early : ¬ ∀ (config : Config) (files : FileTree) (now : Nat) (s₀ : Session),
    (start config files now).2 = .ok s₀ → ∀ (ops : List Operation) (ended : List Nat),
      s₀.Honest ops ended → ((s₀.run ops).tester.state = .ready ↔
        ∀ i url, (s₀.run ops).ledger.Current i url → i ∈ ended) := by
  intro h
  let failed : List Operation := [.completeFetch ⟨lateFetch 0, false⟩]
  obtain ⟨s₀, hstart, hfacts⟩ := exists_ok_of_map (show
    (start (subscribedTo ["https://l/a".toList, "https://l/a".toList]) {} 0).2.toOption.map
      (fun s => (s.tester.requests, (s.run failed).tester.requests,
        (s.run failed).tester.generation, (s.run failed).tester.state)) =
    some ([lateFetch 0, lateFetch 0], [lateFetch 0, lateFetch 0], 0, .ready) by decide +kernel)
  simp only [Prod.mk.injEq] at hfacts
  obtain ⟨hfirst, hsecond, hgeneration, hready⟩ := hfacts
  have hhonest : s₀.Honest failed [0] :=
    .completion .start (q := lateFetch 0) (congrArg (·[0]?) hfirst) (by simp) false
  -- the second fetch of the source has not ended
  have houtstanding : (s₀.run failed).ledger.Current 1 "https://l/a".toList :=
    ⟨lateFetch 0, congrArg (·[1]?) hsecond, hgeneration.symm, rfl⟩
  have hended := (h _ _ _ s₀ hstart failed [0] hhonest).mp hready 1 _ houtstanding
  simp at hended

end Session

end RequestFilter
