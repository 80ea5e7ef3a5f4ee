import RequestFilter.Cli.Outcome
import RequestFilter.Json.Writer

/-!
# Lists from files

Filter lists that are named on the command line are taken into one rule set.

* `Cli.CompiledLists.addFile` takes in one file, `Cli.CompiledLists.ofFiles` several;
* `Cli.Statistics` are the numbers that are shown for them.
-/

namespace RequestFilter

namespace Cli

/-- The rules of some files and the counters of their loads. -/
structure CompiledLists where
  rules : RuleSet := {}
  stats : LoadStats := {}

namespace CompiledLists

/-- Takes in the content of a file: the counters of this load, and what it reported. -/
def addFile (c : CompiledLists) (maxLine : Nat) (path : Path) (content : Bytes) :
    CompiledLists × LoadStats × List LoadEvent :=
  let loaded := c.rules.loadBytes maxLine path content
  (⟨loaded.rules, c.stats.merge loaded.result⟩, loaded.result, loaded.events)

/-- The line that is printed for a file, which was the given one in the row. -/
def fileLine (number : Nat) (path : Path) (stats : LoadStats) : Line :=
  .plain ("  [".toList ++ Text.ofNat number ++ "] ".toList ++ path.fileName ++ " - ".toList ++
    Text.ofNat stats.lines ++ " lines, ".toList ++ Text.ofNat stats.rules ++ " rules".toList)

/-- What came of files: the lines printed on the way, what was reported, and the rules, unless a file
    could not be read. -/
structure Run where
  lines : List Line
  events : List TesterEvent
  result : Except Failure CompiledLists

/-- Takes in files, the first of which has the given number. -/
def addFiles (files : FileTree) (maxLine : Nat) : Nat → CompiledLists → List Path → Run
  | _, c, [] => ⟨[], [], .ok c⟩
  | number, c, path :: paths =>
    match files.read path with
    | .error e => ⟨[], [], .error (.unreadable path e)⟩
    | .ok content =>
      let (next, stats, events) := c.addFile maxLine path content
      let rest := addFiles files maxLine (number + 1) next paths
      ⟨fileLine number path stats :: rest.lines, events.map .loading ++ rest.events, rest.result⟩

/-- Takes in files. -/
def ofFiles (files : FileTree) (maxLine : Nat) (paths : List Path) : Run :=
  if paths.isEmpty then ⟨[], [], .error .noInputs⟩ else addFiles files maxLine 0 {} paths

end CompiledLists

/-- The numbers that are shown for compiled lists. -/
structure Statistics where
  lists : Nat
  lines : Nat
  rules : Nat
  shadowed : Nat
  skipped : Nat
  invalid : Nat
  tooLong : Nat
  signatures : Nat
  fullPatterns : Nat
  hiderGeneric : Nat
  hiderDomains : Nat
  deriving Repr, DecidableEq

namespace Statistics

/-- The numbers for lists that were compiled from so many files. -/
def ofLists (c : CompiledLists) (lists : Nat) : Statistics :=
  let s := c.stats
  { lists := lists
    lines := s.lines
    rules := s.rules
    shadowed := s.shadowed
    skipped := s.comments + s.whitelist + s.sections + s.domainScoped + s.subdocument
    invalid := s.invalid
    tooLong := s.tooLong
    signatures := c.rules.index.stats.signatures
    fullPatterns := c.rules.index.stats.fullPatterns
    hiderGeneric := c.rules.hider.genericCount
    hiderDomains := c.rules.hider.domainCount }

/-- A line with numbers behind a label. -/
def line (label : String) (parts : List Text) : Line := .plain (label.toList ++ parts.flatten)

/-- The lines for readers. -/
def summary (s : Statistics) : List Line :=
  [line "Compiled " [Text.ofNat s.lists, " filter lists".toList],
   line "  Lines:         " [Text.ofNat s.lines],
   line "  Rules:         " [Text.ofNat s.rules, " (".toList, Text.ofNat s.shadowed,
     " shadowed)".toList],
   line "  Skipped:       " [Text.ofNat s.skipped],
   line "  Invalid:       " [Text.ofNat s.invalid, " (".toList, Text.ofNat s.tooLong,
     " too long)".toList],
   line "  Signatures:    " [Text.ofNat s.signatures],
   line "  Full patterns: " [Text.ofNat s.fullPatterns],
   line "  Hiding:        " [Text.ofNat s.hiderGeneric, " generic, ".toList,
     Text.ofNat s.hiderDomains, " domains".toList],
   .timed "  Time:          ".toList .whole "ms".toList]

/-- The numbers with their names. -/
def fields (s : Statistics) : List (Text × Nat) :=
  [("lists".toList, s.lists), ("lines".toList, s.lines), ("rules".toList, s.rules),
   ("shadowed".toList, s.shadowed), ("skipped".toList, s.skipped),
   ("invalid".toList, s.invalid), ("too_long".toList, s.tooLong),
   ("signatures".toList, s.signatures), ("full_patterns".toList, s.fullPatterns),
   ("hider_generic".toList, s.hiderGeneric), ("hider_domains".toList, s.hiderDomains)]

/-- The start of the line of a field in indented JSON. -/
def fieldStart (name : Text) : Text := ' ' :: ' ' :: Json.quote name ++ [':', ' ']

/-- The lines for programs: a JSON object, the duration being its last field. -/
def json (s : Statistics) : List Line :=
  .plain ['{'] ::
    s.fields.map (fun (name, n) => .plain (fieldStart name ++ Text.ofNat n ++ [','])) ++
    [.timed (fieldStart "total_ms".toList) .whole [], .plain ['}']]

end Statistics

end Cli

end RequestFilter
