import RequestFilter.Proofs.EndedFetches

/-!
# Draining fetches

Who starts a tester and wants all of its texts takes in ends of fetches for as long as something is
waited for. The tester waits for sources, while ends come in for fetches, of which a source listed
twice has two; so the loop may stop early, but it never waits for an end that does not come.

* `Session.Arrival`: the end of a fetch and the files by then; `Session.receive` takes it in, and
  `Session.drainAmong` goes on while something is waited for; `drain_eq_drainAmong`: so does
  `Session.drain`, where the files stay as they are;
* `exists_of_drainAmong`: what the loop takes in, and why it stops;
* `Ledger.Expects`: for whatever is waited for some end is still to come; `Expects.fetchEnds`: **the
  end of a fetch keeps that of the others**;
* `drain_ends`: **the loop ends before the ends of fetches run out, whatever their order**.

NOT here: which texts are missing where the loop stops early (`Proofs/EndedFetches.lean`).
-/

namespace RequestFilter

namespace Session

/-! ## 1. The loop -/

/-- The end of a fetch comes in, and the files are by then what they are: the fetch has stored
    something, or not. -/
structure Arrival where
  files : FileTree
  completion : FetchCompletion

/-- The fetch that has ended. -/
def Arrival.request (a : Arrival) : FetchRequest := a.completion.request

/-- Takes in the end of a fetch, which is worth a report. -/
def receive (s : Session) (a : Arrival) : Session :=
  ({ s with files := a.files }.report
    (.fetchEnded a.request.sourceUrl a.completion.success)).completeFetch a.completion

/-- Takes in ends of fetches, one after the other. -/
def receiveAll (s : Session) (arrivals : List Arrival) : Session := arrivals.foldl receive s

/-- Takes in ends of fetches for as long as something is waited for. Those that are not needed are
    given back. -/
def drainAmong (s : Session) : List Arrival → Session × List Arrival
  | [] => (s, [])
  | a :: rest =>
    if s.tester.pending.isEmpty then (s, a :: rest) else (s.receive a).drainAmong rest

/-- **Where the files stay as they are, it is no other loop.** -/
theorem drain_eq_drainAmong (s : Session) (cs : List FetchCompletion) :
    s.drain cs = ((s.drainAmong (cs.map (⟨s.files, ·⟩))).1,
      (s.drainAmong (cs.map (⟨s.files, ·⟩))).2.map (·.completion)) := by
  induction cs generalizing s with
  | nil => rfl
  | cons c rest ih =>
    rw [drain, List.map_cons, drainAmong]
    split
    · simp [Function.comp_def]
    · have hfiles : (s.receive ⟨s.files, c⟩).files = s.files := (keeps_completeFetch _ c).files
      have hrest := ih (s.receive ⟨s.files, c⟩)
      rw [hfiles] at hrest
      exact hrest

/-- **The loop takes in what comes first**, something being waited for each time, and stops because
    nothing is, or because nothing comes any more. -/
theorem exists_of_drainAmong (s : Session) (arrivals : List Arrival) : ∃ taken rest,
    arrivals = taken ++ rest ∧ s.drainAmong arrivals = (s.receiveAll taken, rest) ∧
    (∀ front last, front ++ [last] <+: taken → (s.receiveAll front).tester.pending ≠ []) ∧
    ((s.receiveAll taken).tester.pending = [] ∨ rest = []) := by
  induction arrivals generalizing s with
  | nil => exact ⟨[], [], rfl, rfl, by simp, Or.inr rfl⟩
  | cons a arrivals ih =>
    rw [drainAmong]
    split
    · rename_i hnone
      exact ⟨[], a :: arrivals, rfl, rfl, by simp, Or.inl (List.isEmpty_iff.mp hnone)⟩
    · rename_i hsome
      obtain ⟨taken, rest, rfl, hloop, hwaits, hstop⟩ := ih (s.receive a)
      refine ⟨a :: taken, rest, rfl, hloop, fun front last hfront => ?_, hstop⟩
      cases front with
      | nil => exact fun h => hsome (List.isEmpty_iff.mpr h)
      | cons first front =>
        obtain ⟨rfl, hrest⟩ := List.cons_prefix_cons.mp hfront
        exact hwaits front last hrest

/-! ## 2. What is to come -/

/-- For whatever is waited for, the end of a fetch of this generation is still to come. -/
def Ledger.Expects (l : Ledger) (due : List FetchRequest) : Prop :=
  ∀ url ∈ l.pending, ∃ q ∈ due, q.sourceUrl = url ∧ q.generation = l.generation

theorem Ledger.Expects.fetchEnds {l : Ledger} {q : FetchRequest} {due : List FetchRequest}
    (h : l.Expects (q :: due)) : (l.fetchEnds q).Expects due := by
  intro url hurl
  obtain ⟨hpending, hother⟩ := Ledger.mem_fetchEnds.mp hurl
  obtain ⟨p, hp, hsource, hcurrent⟩ := h url hpending
  rw [(l.fetchEnds_requests q).1]
  rcases List.mem_cons.mp hp with rfl | hp
  · exact absurd ⟨hcurrent, hsource⟩ hother
  · exact ⟨p, hp, hsource, hcurrent⟩

theorem Ledger.Expects.pending_eq_nil {l : Ledger} (h : l.Expects []) : l.pending = [] :=
  List.eq_nil_iff_forall_not_mem.mpr fun url hurl => by simpa using h url hurl

theorem ledger_receive (s : Session) (a : Arrival) :
    (s.receive a).ledger = s.ledger.fetchEnds a.request := ledger_completeFetch _ a.completion

/-- **Taking in ends of fetches leaves for whatever is waited for an end to come**, and asks for no
    fetch. -/
theorem expects_receiveAll {s : Session} {front back : List Arrival}
    (h : s.ledger.Expects ((front ++ back).map (·.request))) (hsettled : s.ledger.Settled) :
    (s.receiveAll front).ledger.Expects (back.map (·.request)) ∧
      (s.receiveAll front).ledger.Settled ∧
      (s.receiveAll front).tester.requests = s.tester.requests := by
  induction front generalizing s with
  | nil => exact ⟨h, hsettled, rfl⟩
  | cons a front ih =>
    have hledger := ledger_receive s a
    obtain ⟨hexpects, hsettled', hrequests⟩ := ih (s := s.receive a)
      (hledger ▸ Ledger.Expects.fetchEnds h) (hledger ▸ hsettled.fetchEnds a.request)
    refine ⟨hexpects, hsettled', hrequests.trans ?_⟩
    exact (congrArg Ledger.requests hledger).trans (s.ledger.fetchEnds_requests a.request).2

/-- At the start every fetch is still to end. -/
theorem expects_start {config : Config} {files : FileTree} {now : Nat} {s₀ : Session}
    (hstart : (start config files now).2 = .ok s₀) :
    s₀.ledger.Expects s₀.tester.requests ∧ s₀.ledger.Settled := by
  obtain ⟨new, hbegins⟩ := begins_start hstart
  refine ⟨fun url hurl => ?_, hbegins.settled⟩
  obtain ⟨q, hq, hsource⟩ := List.mem_map.mp ((hbegins.pending url).mp hurl)
  rw [hbegins.requests, List.nil_append]
  exact ⟨q, hq, hsource, hbegins.current q hq⟩

/-! ## 3. The end of the loop -/

/-- **The loop ends, and it does so ready.** Let every fetch that a new tester has asked for end
    once, in any order, with or without success, and let the files change meanwhile. Then wherever
    the loop stands and waits for a source, the end of a fetch of that source is still to come. So
    the loop takes in some of the ends, at most as many as fetches were asked for, waiting for
    something each time, and stops because nothing is waited for any more: the tester is ready. The
    same is true of the loop that is given all the ends at once. -/
theorem drain_ends {config : Config} {files : FileTree} {now : Nat} {s₀ : Session}
    (hstart : (start config files now).2 = .ok s₀) {arrivals : List Arrival}
    (honce : (arrivals.map (·.request)).Perm s₀.tester.requests) :
    (∀ front back, arrivals = front ++ back →
      (s₀.receiveAll front).tester.requests = s₀.tester.requests ∧
      ∀ url ∈ (s₀.receiveAll front).tester.pending, ∃ a ∈ back, a.request.sourceUrl = url) ∧
    ∃ taken rest, arrivals = taken ++ rest ∧ s₀.drainAmong arrivals = (s₀.receiveAll taken, rest) ∧
      taken.length ≤ s₀.tester.requests.length ∧
      (∀ front last, front ++ [last] <+: taken → (s₀.receiveAll front).tester.pending ≠ []) ∧
      (s₀.receiveAll taken).tester.pending = [] ∧ (s₀.receiveAll taken).tester.state = .ready ∧
      ∀ completions, arrivals = completions.map (⟨s₀.files, ·⟩) →
        s₀.drain completions = (s₀.receiveAll taken, rest.map (·.completion)) := by
  obtain ⟨hexpects, hsettled⟩ := expects_start hstart
  have hdue : s₀.ledger.Expects (arrivals.map (·.request)) := fun url hurl => by
    obtain ⟨q, hq, hfetch⟩ := hexpects url hurl
    exact ⟨q, honce.mem_iff.mpr hq, hfetch⟩
  have hcomes : ∀ front back, arrivals = front ++ back →
      (s₀.receiveAll front).ledger.Expects (back.map (·.request)) ∧
        (s₀.receiveAll front).ledger.Settled ∧
        (s₀.receiveAll front).tester.requests = s₀.tester.requests :=
    fun front back h => expects_receiveAll (h ▸ hdue) hsettled
  refine ⟨fun front back h => ⟨(hcomes front back h).2.2, fun url hurl => ?_⟩, ?_⟩
  · obtain ⟨q, hq, hsource, -⟩ := (hcomes front back h).1 url hurl
    obtain ⟨a, ha, rfl⟩ := List.mem_map.mp hq
    exact ⟨a, ha, hsource⟩
  · obtain ⟨taken, rest, hsplit, hloop, hwaits, hstop⟩ := exists_of_drainAmong s₀ arrivals
    obtain ⟨hleft, hstate, -⟩ := hcomes taken rest hsplit
    have hpending : (s₀.receiveAll taken).tester.pending = [] :=
      hstop.elim id fun hnone => Ledger.Expects.pending_eq_nil (by simpa [hnone] using hleft)
    refine ⟨taken, rest, hsplit, hloop, ?_, hwaits, hpending, ?_, fun completions hall => ?_⟩
    · rw [← honce.length_eq, List.length_map, hsplit, List.length_append]
      exact Nat.le_add_right _ _
    · exact hstate.trans (if_pos hpending)
    · rw [drain_eq_drainAmong, ← hall, hloop]

/-- One source is listed twice. Its first fetch fails and the second stores a text; the fetch of the
    other source comes in between. -/
def crossedArrivals : List Arrival :=
  [⟨{}, ⟨lateFetch 0, false⟩⟩, ⟨{}, ⟨otherFetch 0, false⟩⟩, ⟨lateFiles, ⟨lateFetch 0, true⟩⟩]

/-- The loop does not take in the last of them. -/
theorem drain_ends_crossed : ∃ s₀, (start (subscribedTo
      ["https://l/a".toList, "https://l/a".toList, "https://l/b".toList]) {} 0).2 = .ok s₀ ∧
    (crossedArrivals.map (·.request)).Perm s₀.tester.requests ∧
    ∃ taken rest, s₀.drainAmong crossedArrivals = (s₀.receiveAll taken, rest) ∧
      taken.length = 2 ∧ rest.length = 1 ∧ (s₀.receiveAll taken).tester.state = .ready := by
  obtain ⟨s₀, hstart, hfacts⟩ := exists_ok_of_map (show (start (subscribedTo
      ["https://l/a".toList, "https://l/a".toList, "https://l/b".toList]) {} 0).2.toOption.map
    (fun s => (s.tester.requests, (s.drainAmong crossedArrivals).2.length)) =
      some ([lateFetch 0, lateFetch 0, otherFetch 0], 1) by decide +kernel)
  obtain ⟨hrequests, hleft⟩ := Prod.mk.inj hfacts
  have honce : (crossedArrivals.map (·.request)).Perm s₀.tester.requests := by
    rw [hrequests]
    decide +kernel
  obtain ⟨-, taken, rest, hsplit, hloop, -, -, -, hready, -⟩ := drain_ends hstart honce
  rw [hloop] at hleft
  have hlength := congrArg List.length hsplit
  rw [List.length_append, hleft] at hlength
  exact ⟨s₀, hstart, honce, taken, rest, hloop, Nat.succ.inj hlength.symm, hleft, hready⟩

end Session

end RequestFilter
