import RequestFilter.Benchmark
import RequestFilter.Cli.Lists
import RequestFilter.Tester.Session

/-!
# Commands

What the program does for each command, as a function from files to files and output.

* `Cli.compile`, `Cli.check`, `Cli.listFilters`, `Cli.setFilters`, `Cli.update` and `Cli.bench` are
  the commands;
* `Cli.execute` carries out an invocation, `Cli.run` reads the arguments first.
-/

namespace RequestFilter

namespace Cli

/-! ## 1. Requests against files -/

/-- The outcome of a command that goes on with compiled lists, if they can be compiled. -/
def withLists (config : Config) (files : FileTree) (inputs : List Path) (verbose : Bool)
    (next : CompiledLists → Outcome) : Outcome :=
  let run := CompiledLists.ofFiles files config.maxLineLen.toNat inputs
  let outcome : Outcome :=
    match run.result with
    | .error e => { files := files, failure := some e }
    | .ok c => next c
  { outcome with
    lines := (if verbose then run.lines else []) ++ outcome.lines
    events := run.events ++ outcome.events }

/-- Compiles lists and shows the numbers for them. -/
def compile (config : Config) (files : FileTree) (inputs : List Path) (json : Bool) : Outcome :=
  withLists config files inputs (!json) fun c =>
    let s := Statistics.ofLists c inputs.length
    { files := files, lines := if json then s.json else s.summary }

/-- The line that tells a decision. -/
def decisionLine (r : Request) (blocked : Bool) : Text :=
  (if blocked then "BLOCK ".toList else "ALLOW ".toList) ++ r.url ++ " (".toList ++ r.type.name ++
    ")".toList

/-- Decides a request by the rules of lists. -/
def check (config : Config) (files : FileTree) (inputs : List Path) (r : Request) : Outcome :=
  withLists config files inputs false fun c =>
    let (decision, _) := Matcher.query c.rules.index {} r
    { files := files, lines := [.plain (decisionLine r decision.blocked)] }

/-- The URLs in a file, one on each line. -/
def urlsOf (t : Text) : List Text := ((Text.lines t).map Text.trim).filter (!·.isEmpty)

/-- The lines that tell the result of a benchmark. -/
def benchLines (c : CompiledLists) (r : Benchmark.Result) : List Line :=
  let operations := max r.queries 1
  [.timed ("Compiled ".toList ++ Text.ofNat c.stats.rules ++ " rules in ".toList) .whole
     "ms".toList,
   .plain ("  Queries:       ".toList ++ Text.ofNat r.queries ++ " (".toList ++
     Text.ofNat r.blocked ++ " blocked)".toList),
   .timed "  Cold:          ".toList (.perOperation operations) " ns/op".toList,
   .timed "  Cached:        ".toList (.perOperation operations) " ns/op".toList,
   .plain ("  Regex evals:   ".toList ++ Text.ofNat r.stats.regexEvaluations)]

/-- Puts requests to the rules of lists many times. -/
def bench (config : Config) (files : FileTree) (inputs : List Path) (iterations : Nat)
    (urls : Option Path) : Outcome :=
  withLists config files inputs false fun c =>
    let put (given : List Text) : Outcome :=
      let result := Benchmark.run c.rules.index iterations (Benchmark.requests given)
      { files := files, lines := benchLines c result }
    match urls with
    | none => put []
    | some path =>
      match files.readText path with
      | .error e => { files := files, failure := some (.unreadable path e) }
      | .ok t => put (urlsOf t)

/-! ## 2. Subscriptions -/

/-- The configuration with another data directory, if one was named. -/
def withDataDir (config : Config) : Option Path → Config
  | some path => { config with dataDir := path }
  | none => config

/-- Shows the subscriptions and whether anyone chose them. -/
def listFilters (config : Config) (files : FileTree) : Outcome :=
  let path := config.filtersListPath
  let shown (filters : List Text) (source : String) : Outcome :=
    { files := files
      lines :=
        .plain (Text.ofNat filters.length ++ " filter list(s) (".toList ++ source.toList ++
          ")".toList) :: filters.map fun url => .plain (' ' :: ' ' :: url) }
  match Subscription.read files path with
  | .error e => { files := files, failure := some (.unreadable path e) }
  | .ok (some filters) => shown filters "subscribed"
  | .ok none => shown config.defaultFilters "default"

/-- Saves subscriptions. -/
def setFilters (config : Config) (files : FileTree) (now : Nat) (urls : List Text) : Outcome :=
  let path := config.filtersListPath
  match files.makeDirectories now config.adblockDir with
  | (files, .error e) => { files := files, failure := some (.uncreatable config.adblockDir e) }
  | (files, .ok _) =>
    match Subscription.write files now path urls with
    | .error e => { files := files, failure := some (.unwritable path e) }
    | .ok files =>
      { files := files
        lines := [.plain ("Saved ".toList ++ Text.ofNat urls.length ++
          " filter list(s) to '".toList ++ path ++ "'".toList)] }

/-- The lines that tell what a tester loaded. -/
def testerLines (t : Tester) : List Line :=
  let s := t.loadStats
  let i := t.rules.index.stats
  [.plain ("Loaded ".toList ++ Text.ofNat t.filters.length ++
     " filter list(s), generation ".toList ++ Text.ofNat t.generation),
   .plain ("  Lines:         ".toList ++ Text.ofNat s.lines),
   .plain ("  Rules:         ".toList ++ Text.ofNat s.rules ++ " (".toList ++
     Text.ofNat s.shadowed ++ " shadowed)".toList),
   .plain ("  Signatures:    ".toList ++ Text.ofNat i.signatures),
   .plain ("  Full patterns: ".toList ++ Text.ofNat i.fullPatterns)]

/-- Loads the subscriptions, on demand without any cached text. The program has no connection to
    other machines, so every fetch ends at once and without success. -/
def update (config : Config) (files : FileTree) (now : Nat) (reload : Bool) : Outcome :=
  let (events, files) : List TesterEvent × FileTree :=
    if reload then
      match Subscription.removeCacheFiles files config.adblockDir with
      | .ok r => (r.refused.map .ofRefusal, r.files)
      | .error e => ([.unlistedDirectory config.adblockDir e], files)
    else ([], files)
  match Session.start config files now with
  | (files, .error e) => { files := files, events := events, failure := some (.tester e) }
  | (_, .ok s) =>
    let (s, _) := s.drain (s.tester.requests.map (⟨·, false⟩))
    { files := s.files, lines := testerLines s.tester, events := events ++ s.events }

/-! ## 3. Invocations -/

/-- Carries out a command. -/
def perform (config : Config) (files : FileTree) (now : Nat) : Command → Outcome
  | .compile inputs json => compile config files inputs json
  | .check inputs url page type => check config files inputs ⟨url, page, .ofName type⟩
  | .listFilters dataDir => listFilters (withDataDir config dataDir) files
  | .setFilters dataDir urls => setFilters (withDataDir config dataDir) files now urls
  | .update dataDir reload => update (withDataDir config dataDir) files now reload
  | .bench inputs iterations urls => bench config files inputs iterations urls

/-- The configuration of an invocation: that of a file, if one is named, over the given one. -/
def configuration (standard : Config) (files : FileTree) (i : Invocation) :
    Except TesterError Config :=
  match i.config with
  | none => .ok standard
  | some path => Config.ofFile standard files path

/-- Carries out an invocation, `standard` being the configuration that holds without a file. -/
def execute (standard : Config) (files : FileTree) (now : Nat) (i : Invocation) : Outcome :=
  match configuration standard files i with
  | .error e => { files := files, failure := some (.tester e) }
  | .ok config => perform config files now i.command

/-- Does what the arguments ask for. -/
def run (standard : Config) (files : FileTree) (now : Nat) (arguments : List Text) :
    Except Refusal Outcome :=
  (Invocation.ofArguments arguments).map (execute standard files now)

end Cli

end RequestFilter
