import RequestFilter.Files.Path

/-!
# Command-line arguments

The arguments name a command, possibly one of its subcommands, and options of either. Each option is
written with one dash and a letter or with two dashes and a word, and its value stands behind it,
behind an equals sign or, after a letter, directly.

* `Cli.Scope` is the program, a command or a subcommand, with the options it knows;
* `Cli.Arguments.step` takes in one argument;
* `Cli.Invocation` is what the arguments ask for, `Cli.Invocation.ofArguments` reads it, and
  `Cli.Refusal` says why nothing is done.
-/

namespace RequestFilter

namespace Cli

/-! ## 1. Options and scopes -/

/-- An option. -/
inductive Opt where
  | config
  | verbose
  | input
  | json
  | url
  | page
  | type
  | dataDir
  | reload
  | iterations
  | urls
  deriving Repr, DecidableEq

namespace Opt

/-- The word for an option. -/
def word : Opt → Text
  | config => "config".toList
  | verbose => "verbose".toList
  | input => "input".toList
  | json => "json".toList
  | url => "url".toList
  | page => "page".toList
  | type => "type".toList
  | dataDir => "data-dir".toList
  | reload => "reload".toList
  | iterations => "iterations".toList
  | urls => "urls".toList

/-- The letter for an option, if it has one. -/
def letter? : Opt → Option Char
  | config => some 'c'
  | verbose => some 'v'
  | input => some 'i'
  | json => none
  | url => some 'u'
  | page => some 'p'
  | type => some 't'
  | dataDir => some 'd'
  | reload => some 'r'
  | iterations => none
  | urls => none

/-- The option stands alone and has no value. -/
def isSwitch : Opt → Bool
  | verbose | json | reload => true
  | _ => false

/-- The option may be given more than once in a scope. -/
def isRepeatable : Opt → Bool
  | input => true
  | _ => false

/-- The largest number that may be asked for. -/
def maxNumber : Nat := UInt64.size - 1

/-- A number, possibly behind a plus sign. -/
def number? (t : Text) : Option Nat :=
  (Text.toNat? (match t with
    | '+' :: digits => digits
    | _ => t)).filter (· ≤ maxNumber)

/-- The text may be the value of the option: paths are not empty, and numbers are numbers. -/
def accepts (o : Opt) (value : Text) : Bool :=
  match o with
  | config | dataDir | urls => !value.isEmpty
  | iterations => (number? value).isSome
  | _ => true

end Opt

/-- Where options stand: before the command, behind it, or behind its subcommand. -/
inductive Scope where
  | program
  | compile
  | check
  | filters
  | filtersList
  | filtersSet
  | update
  | bench
  deriving Repr, DecidableEq

namespace Scope

/-- The options known in every scope. -/
def everywhere : List Opt := [.config, .verbose]

/-- The options known in a scope. -/
def options : Scope → List Opt
  | program | filtersList | filtersSet => everywhere
  | compile => [.input, .json] ++ everywhere
  | check => [.input, .url, .page, .type] ++ everywhere
  | filters => [.dataDir] ++ everywhere
  | update => [.dataDir, .reload] ++ everywhere
  | bench => [.input, .iterations, .urls] ++ everywhere

/-- The scopes that a word may lead to. -/
def inner : Scope → List (Text × Scope)
  | program =>
    [("compile".toList, compile), ("check".toList, check), ("filters".toList, filters),
     ("update".toList, update), ("bench".toList, bench)]
  | filters => [("list".toList, filtersList), ("set".toList, filtersSet)]
  | _ => []

/-- The scope takes texts that belong to no option. -/
def takesTexts : Scope → Bool
  | filtersSet => true
  | _ => false

end Scope

/-! ## 2. Reading -/

/-- Why nothing is done: the arguments make no sense, or they ask for help. -/
inductive Refusal where
  | usage
  | help
  deriving Repr, DecidableEq

/-- What was given in a scope: options with their values (none for a switch), and texts. -/
structure Given where
  scope : Scope
  options : List (Opt × Text) := []
  texts : List Text := []
  deriving Repr, DecidableEq

namespace Given

/-- The option was given. -/
def has (g : Given) (o : Opt) : Bool := g.options.any (·.1 == o)

/-- The values of an option, in the order in which they were given. -/
def values (g : Given) (o : Opt) : List Text :=
  g.options.filterMap fun (o', value) => if o' = o then some value else none

/-- The value of an option that is given at most once. -/
def value? (g : Given) (o : Opt) : Option Text := (g.values o).head?

/-- Gives an option a value. -/
def add (g : Given) (o : Opt) (value : Text) : Except Refusal Given :=
  if (g.has o && !o.isRepeatable) || !o.accepts value then .error .usage
  else .ok { g with options := g.options ++ [(o, value)] }

end Given

namespace Arguments

/-- What was read: the scopes that were left for an inner one, outermost first, the scope being
    read, the option that waits for its value, and whether two dashes ended all options. -/
structure State where
  outer : List Given := []
  given : Given := { scope := .program }
  awaiting : Option Opt := none
  literal : Bool := false
  deriving Repr, DecidableEq

/-- The option of the scope that passes a test. -/
def option? (s : State) (test : Opt → Bool) : Option Opt := s.given.scope.options.find? test

/-- Gives an option the value that stands in the same argument, or waits for the next one. -/
def withValue (s : State) (o : Opt) : Option Text → Except Refusal State
  | some value => (s.given.add o value).map fun g => { s with given := g }
  | none => .ok { s with awaiting := some o }

/-- An argument that starts with two dashes, without them. -/
def word (s : State) (t : Text) : Except Refusal State :=
  let name := t.takeWhile (· ≠ '=')
  let value := if t.contains '=' then some ((t.dropWhile (· ≠ '=')).drop 1) else none
  match option? s (·.word == name) with
  | some o =>
    if o.isSwitch then
      if value.isSome then .error .usage else withValue s o (some [])
    else withValue s o value
  | none => .error (if name = "help".toList ∧ value.isNone then .help else .usage)

/-- An argument that starts with one dash, without it: switches, and at most one option with a value
    behind them. -/
def letters (s : State) : Text → Except Refusal State
  | [] => .ok s
  | c :: rest =>
    match option? s (·.letter? == some c) with
    | some o =>
      if o.isSwitch then
        match withValue s o (some []) with
        | .ok next => letters next rest
        | .error e => .error e
      else
        withValue s o
          (match rest with
            | [] => none
            | '=' :: value => some value
            | _ => some rest)
    | none => .error (if c = 'h' then .help else .usage)

/-- An argument that belongs to no option. -/
def text (s : State) (t : Text) : Except Refusal State :=
  if s.given.scope.takesTexts then
    .ok { s with given := { s.given with texts := s.given.texts ++ [t] } }
  else .error .usage

/-- One argument. -/
def step (s : State) (t : Text) : Except Refusal State :=
  if s.literal then text s t
  else match s.awaiting with
  | some o =>
    match t with
    | '-' :: _ :: _ => .error .usage
    | _ => withValue { s with awaiting := none } o (some t)
  | none =>
    match s.given.scope.inner.find? (·.1 == t) with
    | some (_, scope) => .ok { outer := s.outer ++ [s.given], given := { scope := scope } }
    | none =>
      match t with
      | ['-', '-'] => .ok { s with literal := true }
      | '-' :: '-' :: name => word s name
      | '-' :: c :: rest => letters s (c :: rest)
      | _ =>
        if t = "help".toList ∧ !s.given.scope.inner.isEmpty then .error .help else text s t

/-- What is given in each scope, outermost first. -/
def read (arguments : List Text) : Except Refusal (List Given) :=
  match arguments.foldlM step {} with
  | .error e => .error e
  | .ok s => if s.awaiting.isSome then .error .usage else .ok (s.outer ++ [s.given])

end Arguments

/-! ## 3. Invocations -/

/-- What is asked for. -/
inductive Command where
  | compile (inputs : List Path) (json : Bool)
  | check (inputs : List Path) (url : Text) (page : Option Text) (type : Text)
  | listFilters (dataDir : Option Path)
  | setFilters (dataDir : Option Path) (urls : List Text)
  | update (dataDir : Option Path) (reload : Bool)
  | bench (inputs : List Path) (iterations : Nat) (urls : Option Path)
  deriving Repr, DecidableEq

/-- A command, the configuration file to use, and whether everything is to be reported. -/
structure Invocation where
  config : Option Path
  verbose : Bool
  command : Command
  deriving Repr, DecidableEq

namespace Command

/-- The resource type of a request that names none, and the number of passes of a benchmark that
    names none. -/
def defaultType : Text := "other".toList
def defaultIterations : Nat := 1000

/-- At least one input. -/
def inputs? (g : Given) : Option (List Path) :=
  let inputs := g.values .input
  if inputs.isEmpty then none else some inputs

/-- The command that scopes ask for; none if a necessary option, text or subcommand is missing. -/
def ofScopes? : List Given → Option Command
  | [_, g] =>
    match g.scope with
    | .compile => (inputs? g).map fun inputs => .compile inputs (g.has .json)
    | .check => do
      return .check (← inputs? g) (← g.value? .url) (g.value? .page)
        ((g.value? .type).getD defaultType)
    | .filters => some (.listFilters (g.value? .dataDir))
    | .update => some (.update (g.value? .dataDir) (g.has .reload))
    | .bench => do
      let iterations := ((g.value? .iterations).bind Opt.number?).getD defaultIterations
      return .bench (← inputs? g) iterations (g.value? .urls)
    | _ => none
  | [_, g, sub] =>
    match sub.scope with
    | .filtersList => some (.listFilters (g.value? .dataDir))
    | .filtersSet =>
      if sub.texts.isEmpty then none else some (.setFilters (g.value? .dataDir) sub.texts)
    | _ => none
  | _ => none

end Command

/-- Reads the arguments. Of several scopes that give an option known everywhere, the innermost
    counts. -/
def Invocation.ofArguments (arguments : List Text) : Except Refusal Invocation :=
  match Arguments.read arguments with
  | .error e => .error e
  | .ok scopes =>
    match Command.ofScopes? scopes with
    | none => .error .usage
    | some command =>
      .ok { config := (scopes.filterMap (·.value? .config)).getLast?
            verbose := scopes.any (·.has .verbose)
            command := command }

end Cli

end RequestFilter
