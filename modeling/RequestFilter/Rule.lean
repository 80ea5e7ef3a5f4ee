import RequestFilter.Glob
import RequestFilter.RuleIndex
import RequestFilter.Signature

/-!
# URL rules

A rule is one line of a filter list with its anchor taken off. It is compiled in two steps: first,
without looking at any index, to a pattern and a placement, then into an index.

* `Rule.splitOptions` and `Rule.regexLiteral?` take a line apart;
* `Rule.compile` gives the pattern and its `Placement`, or the `CompileError` that drops the rule;
* `CompiledRule.place` files the pattern in an index, unless it is shadowed by the patterns there.
-/

namespace RequestFilter

/-! ## 1. Rules and errors -/

/-- Whether a rule was anchored. -/
inductive RuleKind where
  | uri
  | fullUri
  deriving Repr, DecidableEq

/-- The word that stands first among the options of a rule. -/
def RuleKind.tag : RuleKind → Text
  | .uri => "uri".toList
  | .fullUri => "fulluri".toList

/-- A rule: its text, the anchor that goes in front of its regular expression, and its kind. -/
structure Rule where
  body : Text
  anchor : Text
  kind : RuleKind
  deriving Repr, DecidableEq

/-- Why a line gives no pattern. -/
inductive CompileError where
  | emptyPattern
  | subdocument
  | lineTooLong (bytes : Nat)
  | invalidRegex (pattern : Text) (cause : RegexError)
  deriving Repr, DecidableEq

/-- The words for an error. For a regular expression they stop behind the quoted pattern. -/
def CompileError.message : CompileError → Text
  | .emptyPattern => "empty pattern".toList
  | .subdocument => "subdocument rules are not supported".toList
  | .lineTooLong bytes => "line is ".toList ++ Text.ofNat bytes ++ " bytes, over the limit".toList
  | .invalidRegex pattern _ => "invalid regex '".toList ++ pattern ++ "'".toList

namespace Rule

/-! ## 2. Taking a line apart -/

/-- The tag of a kind, followed by the options, if there are any. -/
def joinOptions (kind : RuleKind) : Option Text → Text
  | none | some [] => kind.tag
  | some options => kind.tag ++ ',' :: options

/-- The pattern and the options of a line `pattern$options`. Of three or more segments the second
    still belongs to the pattern, and the others are options. -/
def splitOptions (line : Text) (kind : RuleKind) : Text × Text :=
  match Text.splitOn '$' line with
  | [] => ([], kind.tag)
  | [pattern] => (pattern, kind.tag)
  | [pattern, options] => (pattern, joinOptions kind (some options))
  | first :: second :: rest => (first ++ second, joinOptions kind (some (Text.join [','] rest)))

/-- A sign that tells a regular expression from a path. -/
def isRegexSign (c : Char) : Bool := "\\()[]\x7b\x7d$^+?|".toList.contains c

/-- The body and the options of a line `/body/` or `/body/$options` whose body looks like a
    regular expression. -/
def regexLiteral? : Text → Option (Text × Option Text)
  | '/' :: rest =>
    let parts :=
      if rest.getLast? = some '/' then some (rest.dropLast, none)
      else (Text.splitLast ['/', '$'] rest).map fun (body, options) => (body, some options)
    parts.filter fun (body, _) => body.any isRegexSign
  | _ => none

/-- A transliterated text of the form `/…/` with a wildcard or an anchor inside is a regular
    expression of its own, to be matched slashes and all. -/
def isRegexText : Text → Bool
  | '/' :: rest => rest.getLast? = some '/' && rest.dropLast.any (['^', '$', '*'].contains ·)
  | _ => false

/-- The options ask for subdocuments, in any case of the ASCII letters. -/
def asksForSubdocuments (options : Text) : Bool :=
  Text.occursIn "subdocument".toList (options.map Char.toLower)

end Rule

/-! ## 3. Compilation -/

/-- Where a pattern may be filed: under the line it was written as, under its own text, or under
    the signatures of its text. -/
inductive Placement where
  | literal (line : Text)
  | regexText
  | signatures
  deriving Repr, DecidableEq

/-- A rule whose pattern is compiled but not yet filed. -/
structure CompiledRule where
  pattern : Pattern
  placement : Placement
  deriving Repr, DecidableEq

namespace Rule

/-- Compiles a regular expression with the options of its rule. -/
def compilePattern (raw options : Text) : Except CompileError Pattern :=
  (Pattern.compile raw (some options)).mapError (.invalidRegex raw)

/-- Compiles a body that is a regular expression, written on the given line. -/
def compileLiteral (line body options : Text) : Except CompileError CompiledRule :=
  if asksForSubdocuments options then .error .subdocument
  else if body.isEmpty then .error .emptyPattern
  else (compilePattern body options).map fun p => ⟨p, .literal line⟩

/-- Compiles a glob behind its anchor. -/
def compileGlob (anchor glob options : Text) : Except CompileError CompiledRule :=
  if glob.isEmpty then .error .emptyPattern
  else if asksForSubdocuments options then .error .subdocument
  else
    let raw := Glob.transliterate anchor glob
    if raw.byteSize = anchor.byteSize then .error .emptyPattern
    else (compilePattern raw options).map fun p =>
      ⟨p, if isRegexText raw then .regexText else .signatures⟩

/-- Compiles a rule. Only an unanchored rule can be a regular expression. -/
def compile (r : Rule) : Except CompileError CompiledRule :=
  match if r.kind = .uri then regexLiteral? r.body else none with
  | some (body, options) => compileLiteral r.body body (joinOptions r.kind options)
  | none =>
    let (glob, options) := splitOptions r.body r.kind
    compileGlob r.anchor glob options

end Rule

/-! ## 4. Placement -/

/-- What became of a compiled rule: it was filed, under so many signatures and perhaps in the
    pattern map, or everything it could be filed under was taken. -/
inductive Outcome where
  | indexed (id : PatternId) (signatures : Nat) (fullPattern : Bool)
  | shadowed
  deriving Repr, DecidableEq

namespace CompiledRule

/-- Files a pattern under signatures and a key. -/
def fileUnder (index : RuleIndex) (pattern : Pattern) (signatures : List Text)
    (key : Option Text) : Outcome × RuleIndex :=
  match index.insert pattern signatures key with
  | some (id, next) => (.indexed id signatures.length key.isSome, next)
  | none => (.shadowed, index)

/-- What the windows of a text come to, as far as they were looked at: how many have no wildcard in
    them, which of these are to be registered, and whether the pattern map is asked for. -/
structure Survey where
  usable : Nat := 0
  signatures : List Text := []
  fullPattern : Bool := false
  deriving Repr, DecidableEq

/-- Looks at one more window of a text. The pattern map is asked for by a window that starts with a
    wildcard, unless it has the text already. -/
def Survey.look (index : RuleIndex) (raw : Text) (s : Survey) (w : Text) : Survey :=
  if !w.contains '*' then
    { s with
      usable := s.usable + 1
      signatures :=
        if !index.hasSignature w && !s.signatures.contains w then s.signatures ++ [w]
        else s.signatures }
  else if w.head? == some '*' && !index.hasFullPattern raw then { s with fullPattern := true }
  else s

/-- Looks at all windows of a text, last one first. -/
def survey (index : RuleIndex) (raw : Text) : Survey :=
  (Signature.windows raw).foldl (Survey.look index raw) {}

/-- Whether the pattern map is to keep a text, too. Several signatures cover it. Without a window
    that can be used there is no other way to it. -/
def needsFullPattern (index : RuleIndex) (raw : Text) : Bool :=
  let s := survey index raw
  let asked := if 1 < s.signatures.length then false else s.fullPattern
  if s.usable = 0 && !index.hasFullPattern raw then true else asked

/-- Files the pattern of a compiled rule. -/
def place (c : CompiledRule) (index : RuleIndex) : Outcome × RuleIndex :=
  let raw := c.pattern.raw
  match c.placement with
  | .literal line => fileUnder index c.pattern [] (some line)
  | .regexText => fileUnder index c.pattern [] (some raw)
  | .signatures =>
    fileUnder index c.pattern (survey index raw).signatures
      (if needsFullPattern index raw then some raw else none)

end CompiledRule

/-- Compiles a rule into an index. An error leaves the index alone. -/
def RuleIndex.compileRule (index : RuleIndex) (r : Rule) :
    Except CompileError (Outcome × RuleIndex) :=
  r.compile.map (·.place index)

end RequestFilter
