import RequestFilter.Matcher
import RequestFilter.Subscription
import RequestFilter.Tester.Event

/-!
# The tester

A tester knows the subscriptions, keeps the rules of all their texts, and answers requests with the
rules it has so far. Texts on other machines are fetched by its host: the tester asks for a fetch
and is told when it ended.

* `Tester` is the tester, `Tester.query` its answer to a request;
* `Session` is a tester among files, with what it reported;
* `Session.start` and `Session.reload` load all subscriptions, `Session.completeFetch` takes in the
  end of a fetch and `Session.drain` those of all, `Session.setFilters` changes the subscriptions.

Fetches are numbered by generation: a reload starts a new one, and what was asked for before it is
ignored.
-/

namespace RequestFilter

/-! ## 1. Types -/

/-- A fetch that was asked for: the source is to be stored at the destination. -/
structure FetchRequest where
  sourceUrl : Text
  destination : Path
  generation : Nat
  deriving Repr, DecidableEq

/-- The end of a fetch. -/
structure FetchCompletion where
  request : FetchRequest
  success : Bool
  deriving Repr, DecidableEq

/-- A tester. -/
structure Tester where
  config : Config
  /-- The subscriptions. -/
  filters : List Text := []
  rules : RuleSet := {}
  memory : Matcher.Memory := {}
  /-- The counters of every load of this generation. -/
  loadStats : LoadStats := {}
  generation : Nat := 0
  /-- The sources whose fetch is outstanding, each once. -/
  pending : List Text := []
  state : TesterState := .loadingSubscriptions
  /-- Every fetch that was asked for, oldest first. -/
  requests : List FetchRequest := []

/-- A tester among files, with what it reported so far. -/
structure Session where
  tester : Tester
  files : FileTree
  events : List TesterEvent := []

/-! ## 2. Requests -/

namespace Tester

/-- Answers a request. An empty page URL counts as none. -/
def query (t : Tester) (r : Request) : Decision × Tester :=
  let (decision, memory) :=
    Matcher.query t.rules.index t.memory { r with page := r.page.filter (!·.isEmpty) }
  (decision, { t with memory := memory })

/-- The directory of the cached texts. -/
def adblockDir (t : Tester) : Path := t.config.adblockDir

end Tester

namespace Session

/-! ## 3. Reports -/

/-- The session with one more report. -/
def report (s : Session) (e : TesterEvent) : Session := { s with events := s.events ++ [e] }

/-- Goes over to a state, which is worth a report only if it is another one. -/
def enter (s : Session) (state : TesterState) : Session :=
  if s.tester.state = state then s
  else { s.report (.stateChanged s.tester.state state) with
           tester := { s.tester with state := state } }

/-- Is ready once no fetch is outstanding. -/
def settle (s : Session) : Session := if s.tester.pending.isEmpty then s.enter .ready else s

/-! ## 4. Loading -/

/-- Takes in the text of a subscription from the file at a path. -/
def loadPath (s : Session) (url : Text) (path : Path) : Session :=
  match s.files.read path with
  | .error e => s.report (.unreadableSource url path e)
  | .ok content =>
    let t := s.tester
    let loaded := t.rules.loadBytes t.config.maxLineLen.toNat path content
    { s with
      tester := { t with rules := loaded.rules, loadStats := t.loadStats.merge loaded.result }
      events := s.events ++ loaded.events.map .loading ++ [.compiled url loaded.result] }

/-- Asks for a fetch. -/
def ask (s : Session) (url : Text) (path : Path) : Session :=
  let t := s.tester
  { s.report (.staleSource url path) with
    tester := { t with
      pending := t.pending.insert url
      requests := t.requests ++ [⟨url, path, t.generation⟩] } }

/-- Takes in whatever text of a subscription there is, and asks for a new one if it is missing or no
    longer fresh. -/
def loadSource (now : Nat) (s : Session) (url : Text) : Session :=
  match SourceLocation.ofUrl s.tester.adblockDir url with
  | .inPlace path => s.loadPath url path
  | .cached path =>
    let loaded := if s.files.exists? path then s.loadPath url path else s
    if Subscription.isFresh s.files path s.tester.config.freshness now then loaded
    else loaded.ask url path

/-- Loads every subscription. -/
def loadSubscriptions (s : Session) (now : Nat) : Session :=
  (s.tester.filters.foldl (loadSource now) (s.enter .compiling)).settle

/-- The subscriptions of the list file, or those of the configuration if there is none that can be
    read. -/
def readSubscriptions (s : Session) : Session :=
  let t := s.tester
  let path := t.config.filtersListPath
  match Subscription.read s.files path with
  | .ok (some filters) => { s with tester := { t with filters := filters } }
  | .ok none => { s with tester := { t with filters := t.config.defaultFilters } }
  | .error e =>
    { s.report (.unreadableList path e) with
      tester := { t with filters := t.config.defaultFilters } }

/-! ## 5. Operations -/

/-- Makes the directory of the cached texts, reads the list of subscriptions and loads them. The
    files are given back also where the directory cannot be made. -/
def start (config : Config) (files : FileTree) (now : Nat) :
    FileTree × Except TesterError Session :=
  match files.makeDirectories now config.adblockDir with
  | (files, .error e) => (files, .error (.io config.adblockDir e))
  | (files, .ok _) =>
    let s := (readSubscriptions ⟨{ config := config }, files, []⟩).loadSubscriptions now
    (s.files, .ok s)

/-- Changes the subscriptions and saves their list. They are loaded only by the next reload. -/
def setFilters (s : Session) (now : Nat) (filters : List Text) :
    Session × Except TesterError Unit :=
  let changed := { s with tester := { s.tester with filters := filters } }
  let path := s.tester.config.filtersListPath
  match Subscription.write s.files now path filters with
  | .ok files => ({ changed with files := files }, .ok ())
  | .error e => (changed, .error (.io path e))

/-- Removes the cached texts. It is worth a report if their directory cannot be read, and for each of
    them that cannot be removed. -/
def removeCacheFiles (s : Session) : Session :=
  match Subscription.removeCacheFiles s.files s.tester.adblockDir with
  | .ok r => { s with files := r.files, events := s.events ++ r.refused.map .ofRefusal }
  | .error e => s.report (.unlistedDirectory s.tester.adblockDir e)

/-- Forgets rules, cached decisions, counters of loads and outstanding fetches, and begins the next
    generation. -/
def forget (s : Session) : Session :=
  let t := s.tester
  { s with
    tester := { t with
      rules := {}
      memory := { t.memory with cache := {} }
      loadStats := {}
      pending := []
      generation := t.generation + 1 } }

/-- Drops every cached text and every rule, and loads all subscriptions again. -/
def reload (s : Session) (now : Nat) : Session :=
  let cleared := ((s.enter .reloading).removeCacheFiles).forget
  (cleared.report
    (.reloading cleared.tester.filters.length cleared.tester.generation)).loadSubscriptions now

/-- Takes in the end of a fetch. It counts only in the generation it was asked for in, and gives
    rules only if it succeeded and its source is still subscribed to. -/
def completeFetch (s : Session) (c : FetchCompletion) : Session :=
  let t := s.tester
  let url := c.request.sourceUrl
  if c.request.generation ≠ t.generation then
    s.report (.outdatedFetch url c.request.generation t.generation)
  else
    let s := { s with tester := { t with pending := t.pending.filter (· ≠ url) } }.settle
    if url ∉ t.filters then s.report (.unsubscribedFetch url)
    else if !c.success then s.report (.failedFetch url)
    else s.loadPath url c.request.destination

/-- Takes in ends of fetches for as long as one is outstanding. Those that are not needed are given
    back. -/
def drain (s : Session) : List FetchCompletion → Session × List FetchCompletion
  | [] => (s, [])
  | c :: rest =>
    if s.tester.pending.isEmpty then (s, c :: rest)
    else drain ((s.report (.fetchEnded c.request.sourceUrl c.success)).completeFetch c) rest

/-- Changes the subscriptions and loads them at once. A list that cannot be saved is worth a
    report, no more. -/
def editFilters (s : Session) (now : Nat) (filters : List Text) : Session :=
  match s.setFilters now filters with
  | (s, .ok _) => s.reload now
  | (s, .error e) => (s.report (.unsavedList e)).reload now

end Session

end RequestFilter
