import RequestFilter.Unicode.Blank
import RequestFilter.Regex.Match
import RequestFilter.Regex.Parser

/-!
# Patterns

A pattern is a compiled URL rule: its regular expression, the text that was compiled, and the
options the rule was written with.

* `PatternFlags.ofOptions` reads the two options that matter when a request is tested;
* `Pattern.compile` builds a pattern, `Pattern.matchesIn` asks whether a URL contains a match.
-/

namespace RequestFilter

/-- What the options of a rule say about its use. -/
structure PatternFlags where
  /-- The rule was anchored at the start of the URL or of the host. -/
  fullUri : Bool
  /-- The rule spares requests to the site of the page that makes them. -/
  thirdParty : Bool
  deriving Repr, DecidableEq

namespace PatternFlags

/-- The items of a comma-separated list of options, trimmed. -/
def items (options : Text) : List Text := (Text.splitOn ',' options).map Text.trim

/-- Some item of the options is the given word, in any case of its ASCII letters. -/
def mentions (options word : Text) : Bool := (items options).any (·.equalsIgnoringCase word)

/-- Reads the options of a rule. -/
def ofOptions (options : Text) : PatternFlags where
  fullUri := mentions options "fulluri".toList
  thirdParty := mentions options "third-party".toList

/-- The flags of a rule without options. -/
def none : PatternFlags := ⟨false, false⟩

/-- The flags as a number: bit 0 is `fullUri`, bit 1 is `thirdParty`. -/
def bits (f : PatternFlags) : Nat := f.fullUri.toNat + 2 * f.thirdParty.toNat

end PatternFlags

/-- A compiled URL rule. -/
structure Pattern where
  regex : Regex
  raw : Text
  options : Option Text
  deriving Repr, DecidableEq

namespace Pattern

/-- Compiles the text of a regular expression. -/
def compile (raw : Text) (options : Option Text) : Except RegexError Pattern :=
  (Regex.compile raw).map fun regex => ⟨regex, raw, options⟩

/-- The flags the options say. -/
def flags (p : Pattern) : PatternFlags := (p.options.map .ofOptions).getD .none

/-- The rule spares requests that its own site makes. -/
def isThirdParty (p : Pattern) : Bool := p.flags.thirdParty

/-- The URL contains a match. -/
def matchesIn (p : Pattern) (url : Text) : Bool := p.regex.matchesIn url

end Pattern

end RequestFilter
