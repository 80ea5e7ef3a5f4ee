import RequestFilter.ElementHiding
import RequestFilter.Rule
import RequestFilter.Text.Utf8

/-!
# Filter lists

A filter list is a text with one entry per line. Every line is put into exactly one class, and the
lines that hold something usable go into a rule set.

* `LineKind.classify` tells what a line is;
* `RuleSet.addLine` takes in one line, `RuleSet.load` a whole list;
* `LoadStats` counts the lines by what became of them, `LoadEvent` is what a load reports.
-/

namespace RequestFilter

/-! ## 1. Lines -/

/-- What a line of a filter list is. -/
inductive LineKind where
  | comment
  | whitelist
  | sectionTag
  | domainScoped
  | blank
  | elementHider (selector : Text)
  | domainHider (line separator : Text)
  | hiderException
  | rule (r : Rule)
  deriving Repr, DecidableEq

namespace LineKind

/-- Puts a line, without the blanks at its end, into its class. The first class that fits counts;
    what fits none is a URL rule without anchor. -/
def classify (line : Text) : LineKind :=
  if line.isEmpty || line.head? == some '!' then .comment
  else if ['@', '@'].isPrefixOf line then .whitelist
  else if line.head? == some '[' then .sectionTag
  else if Text.occursIn "domain=".toList line then .domainScoped
  else if line.head? == some ' ' || (Text.trim line).isEmpty then .blank
  else if Text.occursIn ['#', '@', '#'] line then .hiderException
  else match line with
    | '#' :: '#' :: selector => .elementHider selector
    | '#' :: selector => .elementHider selector
    | _ =>
      if Text.occursIn ['#', '#'] line then .domainHider line ['#', '#']
      else if line.contains '#' then .domainHider line ['#']
      else match line with
        | '|' :: '|' :: body => .rule ⟨body, [], .fullUri⟩
        | '|' :: body => .rule ⟨body, ['^'], .fullUri⟩
        | _ => .rule ⟨line, [], .uri⟩

end LineKind

/-! ## 2. Counters -/

/-- Lines of a load, and what became of them. -/
structure LoadStats where
  lines : Nat := 0
  rules : Nat := 0
  shadowed : Nat := 0
  comments : Nat := 0
  whitelist : Nat := 0
  sections : Nat := 0
  domainScoped : Nat := 0
  subdocument : Nat := 0
  hiderAccepted : Nat := 0
  hiderRejected : Nat := 0
  invalid : Nat := 0
  tooLong : Nat := 0
  deriving Repr, DecidableEq

namespace LoadStats

/-- The counters of two loads together. -/
def merge (s t : LoadStats) : LoadStats where
  lines := s.lines + t.lines
  rules := s.rules + t.rules
  shadowed := s.shadowed + t.shadowed
  comments := s.comments + t.comments
  whitelist := s.whitelist + t.whitelist
  sections := s.sections + t.sections
  domainScoped := s.domainScoped + t.domainScoped
  subdocument := s.subdocument + t.subdocument
  hiderAccepted := s.hiderAccepted + t.hiderAccepted
  hiderRejected := s.hiderRejected + t.hiderRejected
  invalid := s.invalid + t.invalid
  tooLong := s.tooLong + t.tooLong

end LoadStats

/-- What became of one line. -/
inductive LineResult where
  | comment
  | whitelist
  | sectionTag
  | domainScoped
  | hiderAccepted
  | hiderRejected
  | indexed
  | shadowed
  | subdocument
  | invalid
  | tooLong
  deriving Repr, DecidableEq

/-- The counters of a single line. -/
def LineResult.stats : LineResult → LoadStats
  | .comment => { lines := 1, comments := 1 }
  | .whitelist => { lines := 1, whitelist := 1 }
  | .sectionTag => { lines := 1, sections := 1 }
  | .domainScoped => { lines := 1, domainScoped := 1 }
  | .hiderAccepted => { lines := 1, hiderAccepted := 1 }
  | .hiderRejected => { lines := 1, hiderRejected := 1 }
  | .indexed => { lines := 1, rules := 1 }
  | .shadowed => { lines := 1, shadowed := 1 }
  | .subdocument => { lines := 1, subdocument := 1 }
  | .invalid => { lines := 1, invalid := 1 }
  | .tooLong => { lines := 1, tooLong := 1 }

/-! ## 3. Reports -/

/-- How much a report matters. -/
inductive Severity where
  | debug
  | info
  | warn
  deriving Repr, DecidableEq

/-- The word for a severity. -/
def Severity.label : Severity → Text
  | .debug => "DEBUG".toList
  | .info => "INFO".toList
  | .warn => "WARN".toList

/-- What a load reports: a rule that is a regular expression, a line that was dropped for an error,
    and a file that was read. -/
inductive LoadEvent where
  | regexRule (body : Text)
  | droppedLine (number : Nat) (cause : CompileError)
  | loadedFile (path : Text) (stats : LoadStats)
  deriving Repr, DecidableEq

namespace LoadEvent

/-- Only a broken regular expression is worth a warning. -/
def severity : LoadEvent → Severity
  | .droppedLine _ (.invalidRegex _ _) => .warn
  | _ => .debug

/-- The words of a report. -/
def message : LoadEvent → Text
  | .regexRule body => "regex rule '".toList ++ body ++ "'".toList
  | .droppedLine number cause =>
    "line ".toList ++ Text.ofNat number ++ ": ".toList ++ cause.message
  | .loadedFile path stats =>
    "loaded ".toList ++ path ++ ": ".toList ++ Text.ofNat stats.lines ++ " lines, ".toList ++
      Text.ofNat stats.rules ++ " rules, ".toList ++ Text.ofNat stats.invalid ++ " invalid".toList

end LoadEvent

/-! ## 4. Loading -/

/-- Everything that filter lists are compiled to. -/
structure RuleSet where
  index : RuleIndex := {}
  hider : ElementHiding := {}

/-- The effect of one line or one list: the rule set after it, its counters and its reports. -/
structure Loaded (α : Type) where
  rules : RuleSet
  result : α
  events : List LoadEvent

namespace RuleSet

/-- The longest line that is taken in unless a limit is set, in bytes. -/
def defaultMaxLine : Nat := 2000

/-- Takes in an attempt at a selector. -/
def addSelector (s : RuleSet) : Option ElementHiding → Loaded LineResult
  | some hider => ⟨{ s with hider := hider }, .hiderAccepted, []⟩
  | none => ⟨s, .hiderRejected, []⟩

/-- Takes in a URL rule from the line with the given number. -/
def addRule (s : RuleSet) (number : Nat) (r : Rule) : Loaded LineResult :=
  match r.compile with
  | .error .subdocument => ⟨s, .subdocument, []⟩
  | .error cause => ⟨s, .invalid, [.droppedLine number cause]⟩
  | .ok c =>
    let (outcome, index) := c.place s.index
    let events := match c.placement with
      | .literal _ => [.regexRule c.pattern.raw]
      | _ => []
    match outcome with
    | .indexed _ _ _ => ⟨{ s with index := index }, .indexed, events⟩
    | .shadowed => ⟨s, .shadowed, events⟩

/-- Takes in the line with the given number, without the blanks at its end. A line over the limit
    is not even looked at. -/
def addLine (s : RuleSet) (maxLine number : Nat) (line : Text) : Loaded LineResult :=
  if maxLine < line.byteSize then
    ⟨s, .tooLong, [.droppedLine number (.lineTooLong line.byteSize)]⟩
  else match LineKind.classify line with
    | .comment | .blank => ⟨s, .comment, []⟩
    | .whitelist => ⟨s, .whitelist, []⟩
    | .sectionTag => ⟨s, .sectionTag, []⟩
    | .domainScoped => ⟨s, .domainScoped, []⟩
    | .hiderException => ⟨s, .hiderRejected, []⟩
    | .elementHider selector => s.addSelector (s.hider.addGeneric? selector)
    | .domainHider line separator => s.addSelector (s.hider.addPerDomain? line separator)
    | .rule r => s.addRule number r

/-- Takes in lines, the first of which has the given number. -/
def loadLines (maxLine : Nat) : Nat → RuleSet → List Text → Loaded LoadStats
  | _, s, [] => ⟨s, {}, []⟩
  | number, s, line :: lines =>
    let first := s.addLine maxLine number (Text.trimEnd line)
    let rest := loadLines maxLine (number + 1) first.rules lines
    ⟨rest.rules, first.result.stats.merge rest.result, first.events ++ rest.events⟩

/-- Takes in a filter list. -/
def load (s : RuleSet) (maxLine : Nat) (list : Text) : Loaded LoadStats :=
  loadLines maxLine 1 s (Text.lines list)

/-- Takes in the content of the file at a path. Bytes that are not UTF-8 are no reason to refuse
    it. -/
def loadBytes (s : RuleSet) (maxLine : Nat) (path : Text) (content : Bytes) : Loaded LoadStats :=
  let loaded := s.load maxLine (Text.ofBytesLossy content)
  { loaded with events := loaded.events ++ [.loadedFile path loaded.result] }

end RuleSet

end RequestFilter
