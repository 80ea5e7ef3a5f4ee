import RequestFilter.Proofs.Recall

/-!
# Outstanding fetches

What a tester keeps about its fetches: the generation, the sources for which it waits, every fetch
that it asked for, and the state it is in. All four change in different places.

* `Ledger`: the four of them; `Ledger.Asks`: what loading adds, `asks_loadSource`;
* `Begins`: a generation begins with the fetches that it asks for, `begins_start`, `begins_apply`;
* `ledger_completeFetch`: the end of a fetch; `ledger_apply`: no other operation counts;
* `Awaits`: a fetch that was asked for, and has not ended since;
* `sound_run`: **the state says whether something is waited for, no fetch is of a later generation,
  and what is waited for was asked for in this one and has not ended since** -- whatever ends of
  fetches come in; `waits_for_asked` says it of every run.

NOT here: whether all the fetches have ended once the tester is ready
(`Proofs/EndedFetches.lean`).
-/

namespace RequestFilter

namespace Session

/-! ## 1. The ledger -/

/-- What a session keeps about its fetches. -/
structure Ledger where
  generation : Nat
  pending : List Text
  requests : List FetchRequest
  state : TesterState

def ledger (s : Session) : Ledger where
  generation := s.tester.generation
  pending := s.tester.pending
  requests := s.tester.requests
  state := s.tester.state

/-- The state says whether something is waited for. -/
def Ledger.Settled (l : Ledger) : Prop :=
  l.state = if l.pending = [] then .ready else .compiling

/-- Is ready once nothing is waited for. -/
def Ledger.settle (l : Ledger) : Ledger :=
  { l with state := if l.pending = [] then .ready else l.state }

theorem Ledger.settled_settle {l : Ledger} (h : l.pending ≠ [] → l.state = .compiling) :
    l.settle.Settled := by
  unfold Settled settle
  by_cases hpending : l.pending = []
  · simp [hpending]
  · simp [hpending, h hpending]

theorem ledger_loadPath (s : Session) (url : Text) (path : Path) :
    (s.loadPath url path).ledger = s.ledger := by
  unfold loadPath
  split <;> rfl

theorem ledger_enter (s : Session) (state : TesterState) :
    (s.enter state).ledger = { s.ledger with state := state } := by
  obtain ⟨events, hentered⟩ := exists_of_enter s state
  rw [hentered]
  rfl

theorem ledger_settle (s : Session) : s.settle.ledger = s.ledger.settle := by
  unfold settle
  split
  · rename_i hnone
    have hpending : s.ledger.pending = [] := List.isEmpty_iff.mp hnone
    rw [ledger_enter, Ledger.settle, if_pos hpending]
  · rename_i hsome
    have hpending : s.ledger.pending ≠ [] := fun h => hsome (List.isEmpty_iff.mpr h)
    rw [Ledger.settle, if_neg hpending]

theorem ledger_setFilters (s : Session) (now : Nat) (filters : List Text) :
    (s.setFilters now filters).1.ledger = s.ledger := by
  obtain ⟨files, hset⟩ := exists_of_setFilters s now filters
  rw [hset]
  rfl

/-! ## 2. Loading -/

/-- Fetches are asked for in the generation that goes on, and their sources are waited for. -/
structure Ledger.Asks (l : Ledger) (new : List FetchRequest) (m : Ledger) : Prop where
  generation : m.generation = l.generation
  state : m.state = l.state
  requests : m.requests = l.requests ++ new
  current : ∀ q ∈ new, q.generation = l.generation
  pending : ∀ url, url ∈ m.pending ↔ url ∈ l.pending ∨ url ∈ new.map (·.sourceUrl)

theorem Ledger.Asks.refl (l : Ledger) : l.Asks [] l := ⟨rfl, rfl, by simp, by simp, by simp⟩

theorem Ledger.Asks.trans {l m n : Ledger} {new more : List FetchRequest} (h : l.Asks new m)
    (h' : m.Asks more n) : l.Asks (new ++ more) n where
  generation := h'.generation.trans h.generation
  state := h'.state.trans h.state
  requests := by rw [h'.requests, h.requests, List.append_assoc]
  current q hq := by
    rcases List.mem_append.mp hq with hq | hq
    · exact h.current q hq
    · exact (h'.current q hq).trans h.generation
  pending url := by rw [h'.pending, h.pending, List.map_append, List.mem_append, or_assoc]

theorem asks_ask (s : Session) (url : Text) (path : Path) :
    s.ledger.Asks [⟨url, path, s.tester.generation⟩] (s.ask url path).ledger where
  generation := rfl
  state := rfl
  requests := rfl
  current q hq := by
    rw [List.mem_singleton.mp hq]
    rfl
  pending other := by
    show other ∈ s.tester.pending.insert url ↔ other ∈ s.tester.pending ∨ other ∈ [url]
    rw [List.mem_insert_iff, List.mem_singleton, or_comm]

/-- A subscription asks for its own source, if for any. -/
theorem asks_loadSource (now : Nat) (s : Session) (url : Text) :
    ∃ new : List FetchRequest, s.ledger.Asks new (s.loadSource now url).ledger ∧
      (new.map (·.sourceUrl)).Sublist [url] := by
  unfold loadSource
  split
  · rw [ledger_loadPath]
    exact ⟨[], .refl _, List.nil_sublist _⟩
  · rename_i path _
    have hloaded : (if s.files.exists? path then s.loadPath url path else s).ledger = s.ledger := by
      split
      · exact ledger_loadPath s url path
      · rfl
    simp only
    split
    · rw [hloaded]
      exact ⟨[], .refl _, List.nil_sublist _⟩
    · have hasks := asks_ask (if s.files.exists? path then s.loadPath url path else s) url path
      rw [hloaded] at hasks
      exact ⟨_, hasks, List.Sublist.refl _⟩

/-- Subscriptions ask for their sources, each entry for itself. -/
theorem asks_loadSources (now : Nat) (filters : List Text) (s : Session) :
    ∃ new : List FetchRequest, s.ledger.Asks new (filters.foldl (loadSource now) s).ledger ∧
      (new.map (·.sourceUrl)).Sublist filters := by
  induction filters generalizing s with
  | nil => exact ⟨[], .refl _, List.Sublist.refl _⟩
  | cons url filters ih =>
    obtain ⟨new, hnew, hurl⟩ := asks_loadSource now s url
    obtain ⟨more, hmore, hfilters⟩ := ih (s.loadSource now url)
    refine ⟨new ++ more, hnew.trans hmore, ?_⟩
    rw [List.map_append]
    exact hurl.append hfilters

/-! ## 3. Generations -/

/-- A generation begins: the tester waits for what it has asked for, each time for a subscription,
    and for nothing else. -/
structure Begins (old new : List FetchRequest) (t : Session) : Prop where
  requests : t.tester.requests = old ++ new
  current : ∀ q ∈ new, q.generation = t.tester.generation
  pending : ∀ url, url ∈ t.tester.pending ↔ url ∈ new.map (·.sourceUrl)
  settled : t.ledger.Settled
  listed : (new.map (·.sourceUrl)).Sublist t.tester.filters

theorem begins_loadSubscriptions {s : Session} (h : s.tester.pending = []) (now : Nat) :
    ∃ new, Begins s.tester.requests new (s.loadSubscriptions now) := by
  obtain ⟨new, hasks, hlisted⟩ := asks_loadSources now s.tester.filters (s.enter .compiling)
  have hkeeps := keeps_loadSubscriptions s now
  have hledger : (s.loadSubscriptions now).ledger =
      (s.tester.filters.foldl (loadSource now) (s.enter .compiling)).ledger.settle :=
    ledger_settle _
  rw [ledger_enter] at hasks
  refine ⟨new, (congrArg Ledger.requests hledger).trans hasks.requests, ?_, fun url => ?_, ?_, ?_⟩
  · rw [hkeeps.generation]
    exact hasks.current
  · show url ∈ (s.loadSubscriptions now).ledger.pending ↔ _
    rw [hledger]
    refine (hasks.pending url).trans ?_
    simp [ledger, h]
  · rw [hledger]
    exact Ledger.settled_settle fun _ => hasks.state
  · rwa [hkeeps.filters]

/-- The first generation begins at the start. -/
theorem begins_start {config : Config} {files : FileTree} {now : Nat} {s₀ : Session}
    (h : (start config files now).2 = .ok s₀) : ∃ new, Begins [] new s₀ := by
  obtain ⟨filters, files, events, rfl⟩ := exists_of_start h
  exact begins_loadSubscriptions
    (s := ⟨{ config := config, filters := filters }, files, events⟩) rfl now

/-- The next one begins with a reload. -/
theorem begins_reload (s : Session) (now : Nat) :
    (s.reload now).tester.generation = s.tester.generation + 1 ∧
      ∃ new, Begins s.tester.requests new (s.reload now) := by
  obtain ⟨events, hreload⟩ := exists_of_reload s now
  generalize Subscription.withoutCacheFiles s.files s.tester.adblockDir = left at hreload
  obtain ⟨new, hbegins⟩ := begins_loadSubscriptions (s := ⟨s.tester.anew, left, events⟩) rfl now
  rw [hreload]
  exact ⟨(keeps_loadSubscriptions _ now).generation, new, hbegins⟩

/-- What forgets is a reload, if behind a change of the subscriptions. -/
theorem exists_reload {op : Operation} (h : op.forgets = true) (s : Session) :
    ∃ (t : Session) (now : Nat), t.ledger = s.ledger ∧ s.apply op = t.reload now := by
  cases op with
  | reload now => exact ⟨s, now, rfl, rfl⟩
  | editFilters now filters =>
    obtain ⟨told, -, hedit⟩ := exists_of_editFilters s now filters
    refine ⟨_, now, ?_, hedit⟩
    exact ledger_setFilters s now filters
  | _ => cases h

/-- **What forgets begins the next generation.** -/
theorem begins_apply {op : Operation} (h : op.forgets = true) (s : Session) :
    (s.apply op).tester.generation = s.tester.generation + 1 ∧
      ∃ new, Begins s.tester.requests new (s.apply op) := by
  obtain ⟨t, now, hledger, hreload⟩ := exists_reload h s
  obtain ⟨hgeneration, new, hbegins⟩ := begins_reload t now
  have hsame : t.tester.generation = s.tester.generation := congrArg Ledger.generation hledger
  have hrequests : t.tester.requests = s.tester.requests := congrArg Ledger.requests hledger
  rw [hreload, hgeneration, hsame]
  exact ⟨rfl, new, hrequests ▸ hbegins⟩

/-! ## 4. Operations -/

/-- The end of a fetch, whether it was asked for or not. -/
def Ledger.fetchEnds (l : Ledger) (q : FetchRequest) : Ledger :=
  if q.generation = l.generation then
    { l with pending := l.pending.filter (· ≠ q.sourceUrl) }.settle
  else l

theorem ledger_completeFetch (s : Session) (c : FetchCompletion) :
    (s.completeFetch c).ledger = s.ledger.fetchEnds c.request := by
  rw [ledger, tester_completeFetch, Tester.fetchEnds, Ledger.fetchEnds]
  split
  · rename_i hother
    have hgeneration : ¬ c.request.generation = s.ledger.generation := hother
    rw [if_neg hgeneration]
    rfl
  rename_i hsame
  have hgeneration : c.request.generation = s.ledger.generation := not_not.mp hsame
  rw [if_pos hgeneration]
  -- what is taken in beside does not count
  split
  · rfl
  split
  · rfl
  split <;> rfl

/-- **What is neither a reload nor the end of a fetch leaves the ledger alone.** -/
theorem ledger_apply {s : Session} {op : Operation} (hforgets : op.forgets = false)
    (hcompletion : op.isCompletion = false) : (s.apply op).ledger = s.ledger := by
  cases op with
  | query r => rfl
  | setFilters now filters => exact ledger_setFilters s now filters
  | reload now => cases hforgets
  | editFilters now filters => cases hforgets
  | completeFetch c => cases hcompletion
  | fileChange files => rfl

/-- Every operation begins a generation, or leaves the ledger alone, or is the end of a fetch. -/
theorem Operation.kinds (op : Operation) : op.forgets = true ∨
    (op.forgets = false ∧ op.isCompletion = false) ∨ ∃ c, op = .completeFetch c := by
  cases op with
  | query r => exact Or.inr (Or.inl ⟨rfl, rfl⟩)
  | setFilters now filters => exact Or.inr (Or.inl ⟨rfl, rfl⟩)
  | reload now => exact Or.inl rfl
  | editFilters now filters => exact Or.inl rfl
  | completeFetch c => exact Or.inr (Or.inr ⟨c, rfl⟩)
  | fileChange files => exact Or.inr (Or.inl ⟨rfl, rfl⟩)

section Runs

variable (s₀ : Session) (ops : List Operation)

theorem ledger_run_concat {op : Operation} (hforgets : op.forgets = false)
    (hcompletion : op.isCompletion = false) :
    (s₀.run (ops ++ [op])).ledger = (s₀.run ops).ledger := by
  rw [run_concat, ledger_apply hforgets hcompletion]

theorem ledger_run_completeFetch (c : FetchCompletion) :
    (s₀.run (ops ++ [.completeFetch c])).ledger = (s₀.run ops).ledger.fetchEnds c.request := by
  rw [run_concat]
  exact ledger_completeFetch _ c

end Runs

/-- It takes its source out of what is waited for, in the generation that it is of. -/
theorem Ledger.mem_fetchEnds {l : Ledger} {q : FetchRequest} {url : Text} :
    url ∈ (l.fetchEnds q).pending ↔
      url ∈ l.pending ∧ ¬ (q.generation = l.generation ∧ q.sourceUrl = url) := by
  unfold fetchEnds
  split
  · rename_i hsame
    rw [settle]
    simp only [List.mem_filter, decide_eq_true_eq, hsame, true_and]
    exact and_congr_right fun _ => not_congr eq_comm
  · rename_i hother
    simp only [hother, false_and, not_false_iff, and_true]

theorem Ledger.Settled.fetchEnds {l : Ledger} (h : l.Settled) (q : FetchRequest) :
    (l.fetchEnds q).Settled := by
  unfold Ledger.fetchEnds
  split
  · refine settled_settle fun hpending => ?_
    have hbefore : l.pending ≠ [] := by
      intro hnone
      simp [hnone] at hpending
    rw [Settled, if_neg hbefore] at h
    exact h
  · exact h

/-- It leaves the generation alone, and which fetches there are. -/
theorem Ledger.fetchEnds_requests (l : Ledger) (q : FetchRequest) :
    (l.fetchEnds q).generation = l.generation ∧ (l.fetchEnds q).requests = l.requests := by
  unfold fetchEnds
  split <;> exact ⟨rfl, rfl⟩

/-! ## 5. Waiting -/

/-- The operation is the end of a fetch of the same source in the same generation, wherever that was
    to be stored. -/
def Operation.ends (q : FetchRequest) : Operation → Bool
  | .completeFetch c =>
    c.request.sourceUrl == q.sourceUrl && c.request.generation == q.generation
  | _ => false

theorem Operation.ends_of_not_isCompletion {op : Operation} (h : op.isCompletion = false)
    (q : FetchRequest) : op.ends q = false := by
  cases op with
  | completeFetch c => cases h
  | _ => rfl

/-- The fetch was asked for last: by the last operation, or at the start if there is none. -/
inductive AskedLast (s₀ : Session) (q : FetchRequest) : List Operation → Prop
  | start (h : q ∈ s₀.tester.requests) : AskedLast s₀ q []
  | operation {ops : List Operation} {op : Operation} {new : List FetchRequest}
      (hnew : (s₀.run (ops ++ [op])).tester.requests = (s₀.run ops).tester.requests ++ new)
      (h : q ∈ new) : AskedLast s₀ q (ops ++ [op])

/-- The fetch was asked for, and no end of it has come in since. -/
def Awaits (s₀ : Session) (ops : List Operation) (q : FetchRequest) : Prop :=
  ∃ before after, ops = before ++ after ∧ s₀.AskedLast q before ∧ ∀ op ∈ after, op.ends q = false

theorem AskedLast.awaits {s₀ : Session} {q : FetchRequest} {ops : List Operation}
    (h : s₀.AskedLast q ops) : s₀.Awaits ops q := ⟨ops, [], by simp, h, by simp⟩

theorem Awaits.concat {s₀ : Session} {q : FetchRequest} {ops : List Operation} {op : Operation}
    (h : s₀.Awaits ops q) (hop : op.ends q = false) : s₀.Awaits (ops ++ [op]) q := by
  obtain ⟨before, after, rfl, hasked, hafter⟩ := h
  refine ⟨before, after ++ [op], List.append_assoc before after [op], hasked, fun last hlast => ?_⟩
  rcases List.mem_append.mp hlast with hlast | hlast
  · exact hafter last hlast
  · rwa [List.mem_singleton.mp hlast]

/-- The three properties that no operation breaks. -/
structure Sound (s₀ : Session) (ops : List Operation) : Prop where
  settled : (s₀.run ops).ledger.Settled
  earlier : ∀ q ∈ (s₀.run ops).tester.requests, q.generation ≤ (s₀.run ops).tester.generation
  awaited : ∀ url ∈ (s₀.run ops).tester.pending, ∃ q ∈ (s₀.run ops).tester.requests,
    q.sourceUrl = url ∧ q.generation = (s₀.run ops).tester.generation ∧ s₀.Awaits ops q

/-- Where a generation begins they hold, if no earlier fetch is of a later generation. -/
theorem Begins.sound {s₀ : Session} {ops : List Operation} {old new : List FetchRequest}
    (h : Begins old new (s₀.run ops))
    (hold : ∀ q ∈ old, q.generation ≤ (s₀.run ops).tester.generation)
    (hasked : ∀ q ∈ new, s₀.AskedLast q ops) : s₀.Sound ops where
  settled := h.settled
  earlier q hq := by
    rw [h.requests, List.mem_append] at hq
    rcases hq with hq | hq
    · exact hold q hq
    · exact Nat.le_of_eq (h.current q hq)
  awaited url hurl := by
    obtain ⟨q, hq, hsource⟩ := List.mem_map.mp ((h.pending url).mp hurl)
    refine ⟨q, ?_, hsource, h.current q hq, (hasked q hq).awaits⟩
    rw [h.requests]
    exact List.mem_append_right old hq

theorem sound_start {config : Config} {files : FileTree} {now : Nat} {s₀ : Session}
    (h : (start config files now).2 = .ok s₀) : s₀.Sound [] := by
  obtain ⟨new, hbegins⟩ := begins_start h
  refine Begins.sound hbegins (by simp) fun q hq => .start ?_
  rw [hbegins.requests]
  exact hq

/-- A reload begins a generation behind which all earlier fetches are outdated. -/
theorem Sound.begins {s₀ : Session} {ops : List Operation} (h : s₀.Sound ops) {op : Operation}
    (hforgets : op.forgets = true) :
    ∃ new, Begins (s₀.run ops).tester.requests new (s₀.run (ops ++ [op])) ∧
      ∀ q ∈ (s₀.run ops).tester.requests,
        q.generation < (s₀.run (ops ++ [op])).tester.generation := by
  obtain ⟨hgeneration, new, hbegins⟩ := begins_apply hforgets (s₀.run ops)
  rw [← run_concat] at hgeneration hbegins
  refine ⟨new, hbegins, fun q hq => ?_⟩
  rw [hgeneration]
  exact Nat.lt_succ_of_le (h.earlier q hq)

/-- An operation keeps them that only takes out of what is waited for what it ends. -/
theorem Sound.concat {s₀ : Session} {ops : List Operation} {op : Operation} (h : s₀.Sound ops)
    (hsettled : (s₀.run (ops ++ [op])).ledger.Settled)
    (hgeneration : (s₀.run (ops ++ [op])).tester.generation = (s₀.run ops).tester.generation)
    (hrequests : (s₀.run (ops ++ [op])).tester.requests = (s₀.run ops).tester.requests)
    (hpending : ∀ url ∈ (s₀.run (ops ++ [op])).tester.pending, url ∈ (s₀.run ops).tester.pending ∧
      ∀ q : FetchRequest, q.sourceUrl = url → q.generation = (s₀.run ops).tester.generation →
        op.ends q = false) : s₀.Sound (ops ++ [op]) where
  settled := hsettled
  earlier := by
    rw [hgeneration, hrequests]
    exact h.earlier
  awaited url hurl := by
    obtain ⟨hbefore, hends⟩ := hpending url hurl
    obtain ⟨q, hq, hsource, hcurrent, hawaits⟩ := h.awaited url hbefore
    rw [hgeneration, hrequests]
    exact ⟨q, hq, hsource, hcurrent, hawaits.concat (hends q hsource hcurrent)⟩

/-- **No operation breaks them.** -/
theorem Sound.apply {s₀ : Session} {ops : List Operation} (h : s₀.Sound ops) (op : Operation) :
    s₀.Sound (ops ++ [op]) := by
  rcases op.kinds with hforgets | ⟨hforgets, hcompletion⟩ | ⟨c, rfl⟩
  · obtain ⟨new, hbegins, hold⟩ := h.begins hforgets
    exact Begins.sound hbegins (fun q hq => Nat.le_of_lt (hold q hq))
      fun q hq => .operation hbegins.requests hq
  · have hledger := ledger_run_concat s₀ ops hforgets hcompletion
    have hpending : (s₀.run (ops ++ [op])).tester.pending = (s₀.run ops).tester.pending :=
      congrArg Ledger.pending hledger
    refine h.concat (hledger ▸ h.settled) (congrArg Ledger.generation hledger)
      (congrArg Ledger.requests hledger) fun url hurl =>
        ⟨hpending ▸ hurl, fun q _ _ => Operation.ends_of_not_isCompletion hcompletion q⟩
  · have hledger := ledger_run_completeFetch s₀ ops c
    obtain ⟨hgeneration, hrequests⟩ := (s₀.run ops).ledger.fetchEnds_requests c.request
    rw [← hledger] at hgeneration hrequests
    refine h.concat (hledger ▸ h.settled.fetchEnds c.request) hgeneration hrequests
      fun url hurl => ?_
    have hkept : url ∈ ((s₀.run ops).ledger.fetchEnds c.request).pending := hledger ▸ hurl
    obtain ⟨hbefore, hother⟩ := Ledger.mem_fetchEnds.mp hkept
    refine ⟨hbefore, fun q hsource hcurrent => ?_⟩
    -- an end in this generation of a fetch of the source would have taken it out
    rw [Operation.ends, hsource, hcurrent, ← Bool.not_eq_true, Bool.and_eq_true, beq_iff_eq,
      beq_iff_eq]
    exact fun hends => hother ⟨hends.2, hends.1⟩

/-- So every run is sound. -/
theorem sound_run {config : Config} {files : FileTree} {now : Nat} {s₀ : Session}
    (h : (start config files now).2 = .ok s₀) (ops : List Operation) : s₀.Sound ops := by
  induction ops using List.reverseRecOn with
  | nil => exact sound_start h
  | append_singleton ops op ih => exact ih.apply op

/-- **What a tester waits for was asked for.** Whatever is done to it, and whatever ends of fetches
    come in -- of fetches that were asked for or made up, of any generation, in any order and more
    than once: it is ready exactly if it waits for nothing, and compiling else; no fetch is of a
    later generation; and for every source that it waits for there is a fetch of this generation
    that was asked for and of which no end has come in since. -/
theorem waits_for_asked {config : Config} {files : FileTree} {now : Nat} {s₀ : Session}
    (hstart : (start config files now).2 = .ok s₀) (ops : List Operation) :
    let t := (s₀.run ops).tester
    (t.state = if t.pending = [] then .ready else .compiling) ∧
    (∀ q ∈ t.requests, q.generation ≤ t.generation) ∧
    ∀ url ∈ t.pending, ∃ q ∈ t.requests, q.sourceUrl = url ∧ q.generation = t.generation ∧
      s₀.Awaits ops q :=
  ⟨(sound_run hstart ops).settled, (sound_run hstart ops).earlier, (sound_run hstart ops).awaited⟩

/-- A fetch of the subscription of `lateConfig`. -/
def lateFetch (generation : Nat) : FetchRequest :=
  ⟨"https://l/a".toList, "/d/adblock/df7597ccacf6a24df8366acafa8c3744".toList, generation⟩

/-- The fetch ends, but before its time there was a reload; the subscriptions are changed, and a
    fetch ends that nobody asked for. -/
def strayRun : List Operation :=
  [.reload 0, .completeFetch ⟨lateFetch 0, true⟩, .setFilters 0 [],
   .completeFetch ⟨⟨"https://l/b".toList, "/d/b".toList, 1⟩, true⟩]

/-- The fetch of the second generation is waited for. -/
theorem waits_for_asked_stray : ∃ s₀, (start lateConfig {} 0).2 = .ok s₀ ∧
    (s₀.run strayRun).tester.state = .compiling ∧
    ∃ q ∈ (s₀.run strayRun).tester.requests, q.sourceUrl = "https://l/a".toList ∧
      q.generation = 1 ∧ s₀.Awaits strayRun q := by
  obtain ⟨s₀, hstart, hfacts⟩ := exists_ok_of_map (show (start lateConfig {} 0).2.toOption.map
    (fun s => ((s.run strayRun).tester.pending, (s.run strayRun).tester.generation)) =
      some (["https://l/a".toList], 1) by decide +kernel)
  obtain ⟨hpending, hgeneration⟩ := Prod.mk.inj hfacts
  obtain ⟨hstate, -, hawaited⟩ := waits_for_asked hstart strayRun
  rw [hpending] at hstate hawaited
  rw [hgeneration] at hawaited
  exact ⟨s₀, hstart, hstate, hawaited _ (List.mem_singleton_self _)⟩

end Session

end RequestFilter
