import Mathlib.Data.List.Induction
import RequestFilter.Tester.Session
import RequestFilter.Proofs.Growth

/-!
# Runs of a tester

What can be done to a tester once it is started, one operation after the other, while its files
change under it.

* `Session.Operation`: an operation of the host, or a change of the files from outside;
  `Session.apply` is its effect, `Session.run` that of a sequence;
* `Session.Loads`: decisions are kept and rules only come in; `Session.Keeps`: nor do the files and
  the subscriptions change;
* `loadSubscriptions_induction`: what taking in a text and asking for one keep is kept while the
  subscriptions are loaded, as by `keeps_loadSubscriptions`;
* `exists_of_setFilters`: what a change of the subscriptions changes; `exists_of_reload`: what a
  reload loads the subscriptions into; `exists_of_editFilters`: both of them in one;
  `Tester.fetchEnds`: the tester behind the end of a fetch, `tester_completeFetch`;
* `loads_apply`: **what is neither a query nor a reload only loads**, and `grows_run`: without a
  reload the index grows; `config_run`: the configuration stays what it is;
* `exists_of_start`: how a tester is started; `remembered_reload`, `remembered_start`: behind a
  reload and at the start nothing is remembered.
-/

namespace RequestFilter

namespace Session

/-! ## 1. Operations -/

/-- What happens to a session. Whether a request may be loaded is a query as well. -/
inductive Operation where
  | query (r : Request)
  | setFilters (now : Nat) (filters : List Text)
  | reload (now : Nat)
  | editFilters (now : Nat) (filters : List Text)
  | completeFetch (c : FetchCompletion)
  /-- The files are others now: a fetch has stored something, or somebody has written to them. -/
  | fileChange (files : FileTree)

/-- The index and the cache begin anew. -/
def Operation.forgets : Operation → Bool
  | .reload _ | .editFilters _ _ => true
  | _ => false

/-- The end of a fetch. -/
def Operation.isCompletion : Operation → Bool
  | .completeFetch _ => true
  | _ => false

/-- The effect of an operation. -/
def apply (s : Session) : Operation → Session
  | .query r => { s with tester := (s.tester.query r).2 }
  | .setFilters now filters => (s.setFilters now filters).1
  | .reload now => s.reload now
  | .editFilters now filters => s.editFilters now filters
  | .completeFetch c => s.completeFetch c
  | .fileChange files => { s with files := files }

/-- The effect of operations, one after the other. -/
def run (s : Session) (ops : List Operation) : Session := ops.foldl apply s

theorem run_append (s : Session) (ops others : List Operation) :
    s.run (ops ++ others) = (s.run ops).run others := List.foldl_append

theorem run_concat (s : Session) (ops : List Operation) (op : Operation) :
    s.run (ops ++ [op]) = (s.run ops).apply op := by
  rw [run_append]
  rfl

/-- The index of a session. -/
def index (s : Session) : RuleIndex := s.tester.rules.index

/-- What a session remembers about a URL. -/
def remembered (s : Session) (url : Text) : Option Bool := s.tester.memory.cache[url]?

/-! ## 2. Loading -/

/-- Rules only come in. What is remembered, the configuration and the generation are kept. -/
structure Loads (s t : Session) : Prop where
  memory : t.tester.memory = s.tester.memory
  grows : s.index.Grows t.index
  config : t.tester.config = s.tester.config
  generation : t.tester.generation = s.tester.generation

/-- The files and the subscriptions are kept as well. -/
structure Keeps (s t : Session) : Prop extends Loads s t where
  files : t.files = s.files
  filters : t.tester.filters = s.tester.filters

/-- Only the state and the reports differ. -/
structure Passes (s t : Session) : Prop where
  files : t.files = s.files
  tester : ∃ state, t.tester = { s.tester with state := state }

theorem Loads.remembered {s t : Session} (h : Loads s t) (url : Text) :
    t.remembered url = s.remembered url := by
  unfold Session.remembered
  rw [h.memory]

theorem Keeps.refl (s : Session) : Keeps s s := ⟨⟨rfl, .refl, rfl, rfl⟩, rfl, rfl⟩

theorem Keeps.trans {s t u : Session} (h : Keeps s t) (h' : Keeps t u) : Keeps s u where
  memory := h'.memory.trans h.memory
  grows := h.grows.trans h'.grows
  config := h'.config.trans h.config
  generation := h'.generation.trans h.generation
  files := h'.files.trans h.files
  filters := h'.filters.trans h.filters

theorem Passes.refl (s : Session) : Passes s s := ⟨rfl, _, rfl⟩

theorem Passes.rules {s t : Session} (h : Passes s t) : t.tester.rules = s.tester.rules := by
  obtain ⟨-, state, htester⟩ := h
  rw [htester]

theorem Passes.requests {s t : Session} (h : Passes s t) :
    t.tester.requests = s.tester.requests := by
  obtain ⟨-, state, htester⟩ := h
  rw [htester]

theorem Passes.keeps {s t : Session} (h : Passes s t) : Keeps s t := by
  have hgrows : s.index.Grows t.index := by
    rw [index, index, h.rules]
    exact .refl
  obtain ⟨hfiles, state, htester⟩ := h
  exact ⟨⟨by rw [htester], hgrows, by rw [htester], by rw [htester]⟩, hfiles, by rw [htester]⟩

theorem exists_of_enter (s : Session) (state : TesterState) : ∃ events,
    s.enter state = ⟨{ s.tester with state := state }, s.files, events⟩ := by
  unfold enter
  split
  · rename_i hsame
    subst hsame
    exact ⟨s.events, rfl⟩
  · exact ⟨_, rfl⟩

theorem passes_enter (s : Session) (state : TesterState) : Passes s (s.enter state) := by
  obtain ⟨events, hentered⟩ := exists_of_enter s state
  rw [hentered]
  exact ⟨rfl, _, rfl⟩

theorem passes_settle (s : Session) : Passes s s.settle := by
  unfold settle
  split
  · exact passes_enter s .ready
  · exact .refl s

theorem keeps_loadPath (s : Session) (url : Text) (path : Path) :
    Keeps s (s.loadPath url path) := by
  unfold loadPath
  split
  · exact ⟨⟨rfl, .refl, rfl, rfl⟩, rfl, rfl⟩
  · exact ⟨⟨rfl, RuleIndex.grows_loadBytes s.tester.rules _ path _, rfl, rfl⟩, rfl, rfl⟩

theorem keeps_loadSource (s : Session) (now : Nat) (url : Text) :
    Keeps s (s.loadSource now url) := by
  unfold loadSource
  split
  · exact keeps_loadPath s url _
  · rename_i path _
    have hloaded : Keeps s (if s.files.exists? path then s.loadPath url path else s) := by
      split
      · exact keeps_loadPath s url path
      · exact .refl s
    simp only
    split
    · exact hloaded
    · exact hloaded.trans ⟨⟨rfl, .refl, rfl, rfl⟩, rfl, rfl⟩

/-- **What holds of a session holds behind loading its subscriptions, if taking in a text and asking
    for one keep it**, and it is not about the state or the reports. A text is asked for only to
    where it is cached. -/
theorem loadSubscriptions_induction {P : Session → Prop}
    (hpasses : ∀ {s t}, P s → Passes s t → P t)
    (hload : ∀ {s} (url : Text) (path : Path), P s → P (s.loadPath url path))
    (hask : ∀ {s} (url : Text) (path : Path),
      SourceLocation.ofUrl s.tester.adblockDir url = .cached path → P s → P (s.ask url path))
    {s : Session} (h : P s) (now : Nat) : P (s.loadSubscriptions now) := by
  have hsource : ∀ {t} (url : Text), P t → P (t.loadSource now url) := by
    intro t url ht
    unfold loadSource
    split
    · exact hload url _ ht
    · rename_i path hcached
      have hloaded : P (if t.files.exists? path then t.loadPath url path else t) ∧
          (if t.files.exists? path then t.loadPath url path else t).tester.config =
            t.tester.config := by
        split
        · exact ⟨hload url path ht, (keeps_loadPath t url path).config⟩
        · exact ⟨ht, rfl⟩
      simp only
      split
      · exact hloaded.1
      · refine hask url path ?_ hloaded.1
        rwa [Tester.adblockDir, hloaded.2]
  have hfold : ∀ (filters : List Text) {t}, P t → P (filters.foldl (loadSource now) t) := by
    intro filters
    induction filters with
    | nil => exact id
    | cons url filters ih => exact fun ht => ih (hsource url ht)
  exact hpasses (hfold _ (hpasses h (passes_enter s .compiling))) (passes_settle _)

/-- **Loading the subscriptions only adds rules.** -/
theorem keeps_loadSubscriptions (s : Session) (now : Nat) : Keeps s (s.loadSubscriptions now) :=
  loadSubscriptions_induction (P := Keeps s) (fun h hpasses => h.trans hpasses.keeps)
    (fun url path h => h.trans (keeps_loadPath _ url path))
    (fun _ _ _ h => h.trans ⟨⟨rfl, .refl, rfl, rfl⟩, rfl, rfl⟩) (.refl s) now

theorem keeps_completeFetch (s : Session) (c : FetchCompletion) : Keeps s (s.completeFetch c) := by
  unfold completeFetch
  simp only
  split
  · exact ⟨⟨rfl, .refl, rfl, rfl⟩, rfl, rfl⟩
  · refine Keeps.trans (⟨⟨rfl, .refl, rfl, rfl⟩, rfl, rfl⟩ : Keeps s { s with tester :=
      { s.tester with pending := s.tester.pending.filter (· ≠ c.request.sourceUrl) } }) ?_
    refine (passes_settle _).keeps.trans ?_
    split
    · exact ⟨⟨rfl, .refl, rfl, rfl⟩, rfl, rfl⟩
    · split
      · exact ⟨⟨rfl, .refl, rfl, rfl⟩, rfl, rfl⟩
      · exact keeps_loadPath _ _ _

/-- **A change of the subscriptions changes nothing else in the tester**, whether it is saved or
    not. -/
theorem exists_of_setFilters (s : Session) (now : Nat) (filters : List Text) : ∃ files,
    (s.setFilters now filters).1 = ⟨{ s.tester with filters := filters }, files, s.events⟩ := by
  unfold setFilters
  simp only
  split <;> exact ⟨_, rfl⟩

theorem loads_setFilters (s : Session) (now : Nat) (filters : List Text) :
    Loads s (s.setFilters now filters).1 := by
  obtain ⟨files, hset⟩ := exists_of_setFilters s now filters
  rw [hset]
  exact ⟨rfl, .refl, rfl, rfl⟩

end Session

/-! ## 3. Reloads and the ends of fetches -/

/-- The files that are left once the cached texts are removed, as far as they can be; all of them, if
    their directory cannot be read. -/
def Subscription.withoutCacheFiles (files : FileTree) (directory : Path) : FileTree :=
  match removeCacheFiles files directory with
  | .ok r => r.files
  | .error _ => files

/-- What a reload loads the subscriptions into: of what changes in a run it has kept the
    subscriptions, the counters of queries and the fetches that were asked for. -/
def Tester.anew (t : Tester) : Tester :=
  { t with
    rules := {}
    memory := { t.memory with cache := {} }
    loadStats := {}
    pending := []
    generation := t.generation + 1
    state := .reloading }

/-- The end of a fetch of the source has come in: it is not waited for any more. -/
def Tester.stopWaiting (t : Tester) (url : Text) : Tester :=
  let pending := t.pending.filter (· ≠ url)
  { t with pending := pending, state := if pending = [] then .ready else t.state }

/-- The tester has taken in the text of the file at a path. -/
def Tester.takeIn (t : Tester) (path : Path) (content : Bytes) : Tester :=
  let loaded := t.rules.loadBytes t.config.maxLineLen.toNat path content
  { t with rules := loaded.rules, loadStats := t.loadStats.merge loaded.result }

/-- The tester behind the end of a fetch. -/
def Tester.fetchEnds (t : Tester) (files : FileTree) (c : FetchCompletion) : Tester :=
  if c.request.generation ≠ t.generation then t
  else if !t.filters.contains c.request.sourceUrl then t.stopWaiting c.request.sourceUrl
  else if !c.success then t.stopWaiting c.request.sourceUrl
  else match files.read c.request.destination with
    | .error _ => t.stopWaiting c.request.sourceUrl
    | .ok content => (t.stopWaiting c.request.sourceUrl).takeIn c.request.destination content

namespace Session

theorem exists_of_removeCacheFiles (s : Session) : ∃ events, s.removeCacheFiles =
    ⟨s.tester, Subscription.withoutCacheFiles s.files s.tester.adblockDir, events⟩ := by
  unfold removeCacheFiles Subscription.withoutCacheFiles
  cases Subscription.removeCacheFiles s.files s.tester.adblockDir with
  | ok r => exact ⟨_, rfl⟩
  | error e => exact ⟨_, rfl⟩

/-- **A reload loads the subscriptions into a tester that begins anew**, among the files that are
    left. -/
theorem exists_of_reload (s : Session) (now : Nat) : ∃ events, s.reload now = loadSubscriptions
    ⟨s.tester.anew, Subscription.withoutCacheFiles s.files s.tester.adblockDir, events⟩ now := by
  obtain ⟨_, hentered⟩ := exists_of_enter s .reloading
  obtain ⟨_, hcleared⟩ := exists_of_removeCacheFiles (s.enter .reloading)
  unfold reload
  rw [hcleared, hentered]
  exact ⟨_, rfl⟩

/-- Changed subscriptions are loaded at once, whether they are saved or not. -/
theorem exists_of_editFilters (s : Session) (now : Nat) (filters : List Text) :
    ∃ told : List TesterEvent, (∀ e ∈ told, ∃ cause, e = .unsavedList cause) ∧
      s.editFilters now filters =
        reload { (s.setFilters now filters).1 with events := s.events ++ told } now := by
  obtain ⟨files, hchanged⟩ := exists_of_setFilters s now filters
  unfold editFilters
  split
  · rename_i t _ hset
    rw [hset] at hchanged ⊢
    obtain rfl : t = _ := hchanged
    exact ⟨[], by simp, by rw [List.append_nil]⟩
  · rename_i t e hset
    rw [hset] at hchanged ⊢
    obtain rfl : t = _ := hchanged
    exact ⟨[.unsavedList e], by simp, rfl⟩

theorem tester_settle (s : Session) : s.settle.tester =
    { s.tester with state := if s.tester.pending = [] then .ready else s.tester.state } := by
  unfold settle
  split
  · rename_i hnone
    obtain ⟨events, hentered⟩ := exists_of_enter s .ready
    rw [hentered, if_pos (List.isEmpty_iff.mp hnone)]
  · rename_i hsome
    rw [if_neg fun h => hsome (List.isEmpty_iff.mpr h)]

theorem tester_loadPath (s : Session) (url : Text) (path : Path) : (s.loadPath url path).tester =
    match s.files.read path with
    | .error _ => s.tester
    | .ok content => s.tester.takeIn path content := by
  unfold loadPath
  cases s.files.read path <;> rfl

/-- **What the end of a fetch does to a tester** depends on the files beside it, and on nothing
    else. -/
theorem tester_completeFetch (s : Session) (c : FetchCompletion) :
    (s.completeFetch c).tester = s.tester.fetchEnds s.files c := by
  let t : Session := { s with tester :=
    { s.tester with pending := s.tester.pending.filter (· ≠ c.request.sourceUrl) } }
  have hstops : t.settle.tester = s.tester.stopWaiting c.request.sourceUrl := tester_settle t
  have hfiles : t.settle.files = s.files := (passes_settle t).files
  unfold completeFetch Tester.fetchEnds
  simp only
  split
  · rfl
  · split
    · rename_i hunsubscribed
      rw [if_pos (by simp [hunsubscribed])]
      exact hstops
    · rename_i hsubscribed
      have hlisted : ¬ (!s.tester.filters.contains c.request.sourceUrl) = true := by
        simpa using hsubscribed
      rw [if_neg hlisted]
      split
      · exact hstops
      · rw [tester_loadPath, hfiles, hstops]

/-! ## 4. One operation -/

/-- **What is neither a query nor a reload keeps what is remembered and only adds rules.** -/
theorem loads_apply {s : Session} {op : Operation} (hforgets : op.forgets = false)
    (hquery : ∀ r, op ≠ .query r) : Loads s (s.apply op) := by
  cases op with
  | query r => exact absurd rfl (hquery r)
  | setFilters now filters => exact loads_setFilters s now filters
  | reload now => cases hforgets
  | editFilters now filters => cases hforgets
  | completeFetch c => exact (keeps_completeFetch s c).toLoads
  | fileChange files => exact ⟨rfl, .refl, rfl, rfl⟩

/-- Without a reload the index grows. -/
theorem grows_apply {s : Session} {op : Operation} (h : op.forgets = false) :
    s.index.Grows (s.apply op).index := by
  cases op with
  | query r => exact .refl
  | reload now => cases h
  | editFilters now filters => cases h
  | _ => exact (loads_apply h (by simp)).grows

theorem config_reload (s : Session) (now : Nat) :
    (s.reload now).tester.config = s.tester.config := by
  obtain ⟨events, hreload⟩ := exists_of_reload s now
  rw [hreload]
  exact (keeps_loadSubscriptions _ now).config

/-- **No operation changes the configuration.** -/
theorem config_apply (s : Session) (op : Operation) :
    (s.apply op).tester.config = s.tester.config := by
  cases op with
  | query r => rfl
  | reload now => exact config_reload s now
  | editFilters now filters =>
    obtain ⟨told, -, hedit⟩ := exists_of_editFilters s now filters
    rw [apply, hedit, config_reload]
    exact (loads_setFilters s now filters).config
  | _ => exact (loads_apply rfl (by simp)).config

/-- The generation is kept until a reload. -/
theorem generation_apply {s : Session} {op : Operation} (h : op.forgets = false) :
    (s.apply op).tester.generation = s.tester.generation := by
  cases op with
  | query r => rfl
  | reload now => cases h
  | editFilters now filters => cases h
  | _ => exact (loads_apply h (by simp)).generation

/-- Only a reload and the end of a fetch touch the index. -/
theorem index_apply {s : Session} {op : Operation} (h : op.forgets = false)
    (hc : op.isCompletion = false) : (s.apply op).index = s.index := by
  cases op with
  | query r => rfl
  | setFilters now filters =>
    obtain ⟨files, hset⟩ := exists_of_setFilters s now filters
    rw [apply, hset]
    rfl
  | reload now => cases h
  | editFilters now filters => cases h
  | completeFetch c => cases hc
  | fileChange files => rfl

/-- Behind a reload nothing is remembered. -/
theorem remembered_reload (s : Session) (now : Nat) (url : Text) :
    (s.reload now).remembered url = none := by
  obtain ⟨events, hreload⟩ := exists_of_reload s now
  rw [hreload, (keeps_loadSubscriptions _ now).remembered]
  simp [remembered, Tester.anew]

theorem remembered_apply_of_forgets {s : Session} {op : Operation} (h : op.forgets = true)
    (url : Text) : (s.apply op).remembered url = none := by
  cases op with
  | reload now => exact remembered_reload s now url
  | editFilters now filters =>
    obtain ⟨told, -, hedit⟩ := exists_of_editFilters s now filters
    rw [apply, hedit]
    exact remembered_reload _ now url
  | _ => cases h

/-! ## 5. Runs -/

theorem grows_run {s : Session} {ops : List Operation} (h : ∀ op ∈ ops, op.forgets = false) :
    s.index.Grows (s.run ops).index := by
  induction ops using List.reverseRecOn with
  | nil => exact .refl
  | append_singleton ops op ih =>
    simp only [List.mem_append, List.mem_singleton] at h
    rw [run_concat]
    exact (ih fun o ho => h o (Or.inl ho)).trans (grows_apply (h op (Or.inr rfl)))

theorem index_run {s : Session} {ops : List Operation}
    (h : ∀ op ∈ ops, op.forgets = false ∧ op.isCompletion = false) :
    (s.run ops).index = s.index := by
  induction ops using List.reverseRecOn with
  | nil => rfl
  | append_singleton ops op ih =>
    simp only [List.mem_append, List.mem_singleton] at h
    have hop := h op (Or.inr rfl)
    rw [run_concat, index_apply hop.1 hop.2, ih fun o ho => h o (Or.inl ho)]

theorem config_run (s : Session) (ops : List Operation) :
    (s.run ops).tester.config = s.tester.config := by
  induction ops using List.reverseRecOn with
  | nil => rfl
  | append_singleton ops op ih => rw [run_concat, config_apply, ih]

theorem generation_run {s : Session} {ops : List Operation} (h : ∀ op ∈ ops, op.forgets = false) :
    (s.run ops).tester.generation = s.tester.generation := by
  induction ops using List.reverseRecOn with
  | nil => rfl
  | append_singleton ops op ih =>
    simp only [List.mem_append, List.mem_singleton] at h
    rw [run_concat, generation_apply (h op (Or.inr rfl)), ih fun o ho => h o (Or.inl ho)]

/-- At the start the subscriptions are loaded into a tester that has nothing yet. -/
theorem exists_of_start {config : Config} {files : FileTree} {now : Nat} {s : Session}
    (h : (start config files now).2 = .ok s) : ∃ filters files events,
      s = loadSubscriptions ⟨{ config := config, filters := filters }, files, events⟩ now := by
  unfold start at h
  split at h
  · cases h
  · obtain rfl := Except.ok.inj h
    unfold readSubscriptions
    simp only
    split <;> exact ⟨_, _, _, rfl⟩

/-- At the start nothing is remembered. -/
theorem remembered_start {config : Config} {files : FileTree} {now : Nat} {s : Session}
    (h : (start config files now).2 = .ok s) (url : Text) : s.remembered url = none := by
  obtain ⟨filters, files, events, rfl⟩ := exists_of_start h
  rw [(keeps_loadSubscriptions _ now).remembered]
  simp [remembered]

end Session

end RequestFilter
