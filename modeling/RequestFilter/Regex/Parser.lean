import RequestFilter.Regex.Bracket

/-!
# Reading regular expressions

From the notation of a regular expression to `Regex`, for a notation without look-around and back
references.

* `Parser.State` is the reader between two items: the alternatives read so far and the groups that
  are still open;
* `Parser.step` reads one item, `Parser.walk` reads them all;
* `Regex.parse?` reads a whole expression, and `Regex.compile` also refuses one that is too big.

A repetition sign needs something to repeat, a brace that counts nothing is an error, and groups,
classes, sequences, alternatives and repetitions together nest at most `Regex.depthLimit` deep.
-/

namespace RequestFilter

/-- Why a text is no usable regular expression. -/
inductive RegexError where
  | malformed
  | tooBig
  deriving Repr, DecidableEq

namespace Parser

/-! ## 1. The state of the reader -/

/-- An expression together with how deep its notation nests. -/
structure Piece where
  regex : Regex
  depth : Nat
  deriving Repr, DecidableEq

/-- The alternatives under way: those that are complete and the items of the last one, both last
    first. A change of mode is an item without an expression. -/
structure Branches where
  complete : List Piece := []
  items : List (Option Piece) := []
  deriving Repr, DecidableEq

/-- An open group: the alternatives around it and the mode to return to. -/
structure Group where
  outer : Branches
  mode : Mode
  deriving Repr, DecidableEq

/-- The reader between two items. -/
structure State where
  mode : Mode := {}
  branches : Branches := {}
  groups : List Group := []
  names : List Text := []
  deriving Repr, DecidableEq

/-! ## 2. Sequences and alternatives -/

/-- The greatest depth in a list of pieces. -/
def maxDepth (pieces : List Piece) : Nat := pieces.foldl (fun d p => max d p.depth) 0

/-- The items of an alternative, in order, as one piece. Several items nest one deeper. -/
def sequence (items : List (Option Piece)) : Piece :=
  let pieces := items.filterMap id
  ⟨.concat (pieces.map (·.regex)), maxDepth pieces + if items.length ≤ 1 then 0 else 1⟩

/-- The alternatives as one piece. Several alternatives nest one deeper. -/
def Branches.close (b : Branches) : Piece :=
  let pieces := (sequence b.items.reverse :: b.complete).reverse
  ⟨.alternation (pieces.map (·.regex)), maxDepth pieces + if pieces.length ≤ 1 then 0 else 1⟩

/-- One more item of the alternative under way. -/
def State.push (s : State) (item : Option Piece) : State :=
  { s with branches := { s.branches with items := item :: s.branches.items } }

/-- One more item that nests no further. -/
def State.pushRegex (s : State) (r : Regex) : State := s.push (some ⟨r, 0⟩)

/-- The alternative under way is complete. -/
def State.nextBranch (s : State) : State :=
  { s with branches := ⟨sequence s.branches.items.reverse :: s.branches.complete, []⟩ }

/-! ## 3. Repetitions -/

/-- Repeats the last item; there has to be one, and it has to be an expression. -/
def State.repeatLast? (s : State) (least : Nat) (most : Option Nat) : Option State :=
  match s.branches.items with
  | some p :: items =>
    some { s with branches :=
      { s.branches with items := some ⟨.rep p.regex least most, p.depth + 1⟩ :: items } }
  | _ => none

/-- The text without the question mark that makes a repetition lazy. -/
def dropLazy : Text → Text
  | '?' :: rest => rest
  | t => t

/-- A count: a decimal number below 2^32, with blanks around it. -/
def count? (t : Text) : Option Nat :=
  (Text.toNat? (Text.trim t)).filter (· < UInt32.size)

/-- The bounds in braces: one count, or two in order, or a count and a comma. -/
def bounds? (content : Text) : Option (Nat × Option Nat) :=
  match Text.splitOn ',' content with
  | [exactly] => (count? exactly).map fun n => (n, some n)
  | [least, []] => (count? least).map fun n => (n, none)
  | [least, most] => do
    let low ← count? least
    let high ← count? most
    if low ≤ high then some (low, some high) else none
  | _ => none

/-- A repetition in braces. -/
def counted? (s : State) (rest : Text) : Option (State × Text) := do
  let (content, after) ← s.mode.untilBrace false rest
  let (least, most) ← bounds? content
  let next ← s.repeatLast? least most
  return (next, dropLazy (s.mode.skipBlanks after))

/-- A repetition by one sign. -/
def repeated? (s : State) (least : Nat) (most : Option Nat) (rest : Text) :
    Option (State × Text) :=
  (s.repeatLast? least most).map fun next => (next, dropLazy rest)

/-! ## 4. Groups -/

/-- The reader inside a new group. -/
def State.openGroup (s : State) (mode : Mode) : State :=
  { s with mode := mode, branches := {}, groups := ⟨s.branches, s.mode⟩ :: s.groups }

/-- The reader behind the end of the innermost group; the group's changes of mode are forgotten. -/
def State.closeGroup? (s : State) : Option State :=
  match s.groups with
  | [] => none
  | g :: groups =>
    let inner := s.branches.close
    some ({ s with mode := g.mode, branches := g.outer, groups := groups }.push
      (some ⟨inner.regex, inner.depth + 1⟩))

/-- A letter can start the name of a group. -/
def isNameStart (c : Char) : Bool :=
  c == '_' || (Unicode.isWord c && !Unicode.isDigit c)

/-- A character can continue the name of a group. -/
def isNamePart (c : Char) : Bool :=
  c == '_' || c == '.' || c == '[' || c == ']' || Unicode.isWord c

/-- A group with a name, which no other group of the expression may have. -/
def namedGroup? (s : State) (t : Text) : Option (State × Text) :=
  let name := t.takeWhile (· != '>')
  match name, t.dropWhile (· != '>') with
  | c :: more, _ :: after =>
    if isNameStart c && more.all isNamePart && !s.names.contains name then
      some ({ s with names := name :: s.names }.openGroup s.mode, after)
    else none
  | _, _ => none

/-- Switches up to `)`, which change the mode from here on, or up to `:`, which open a group. -/
def switches? (s : State) (t : Text) : Option (State × Text) :=
  let isEnd (c : Char) : Bool := c == ':' || c == ')'
  let letters := t.takeWhile (!isEnd ·)
  match t.dropWhile (!isEnd ·) with
  | [] => none
  | sign :: after => do
    let mode ← s.mode.switch? letters
    if sign = ':' then return (s.openGroup mode, after)
    else if letters.isEmpty then none
    else return ({ s with mode := mode }.push none, after)

/-- The signs behind an opening parenthesis that would look around a position. -/
def lookAround : List Text := [['?', '='], ['?', '!'], ['?', '<', '='], ['?', '<', '!']]

/-- An opening parenthesis. -/
def group? (s : State) (rest : Text) : Option (State × Text) :=
  let t := s.mode.skipBlanks rest
  if lookAround.any (·.isPrefixOf t) then none
  else match t with
    | '?' :: 'P' :: '<' :: name => namedGroup? s name
    | '?' :: '<' :: name => namedGroup? s name
    | '?' :: flags => switches? s flags
    | _ => some (s.openGroup s.mode, t)

/-! ## 5. Steps -/

/-- An escape outside a class. -/
def escape? (s : State) (rest : Text) : Option (State × Text) :=
  (Escape.read? s.mode rest).map fun (e, after) =>
    match e with
    | .char c => (s.pushRegex (s.mode.literal c), after)
    | .set set => (s.pushRegex (.chars set), after)
    | .look condition => (s.pushRegex (.look condition), after)

/-- A bracketed class. -/
def bracket? (s : State) (rest : Text) : Option (State × Text) :=
  (Bracket.read? s.mode rest).map fun (c, after) => (s.push (some ⟨.chars c.set, c.depth⟩), after)

/-- Reads one item, from its first character and the text behind it. -/
def step (s : State) (c : Char) (rest : Text) : Option (State × Text) :=
  match c with
  | '(' => group? s rest
  | ')' => s.closeGroup?.map (·, rest)
  | '|' => some (s.nextBranch, rest)
  | '[' => bracket? s rest
  | '?' => repeated? s 0 (some 1) rest
  | '*' => repeated? s 0 none rest
  | '+' => repeated? s 1 none rest
  | '\x7b' => counted? s rest
  | '\\' => escape? s rest
  | '.' => s.mode.anyChar?.map fun r => (s.pushRegex r, rest)
  | '^' => some (s.pushRegex (.look s.mode.lineStart), rest)
  | '$' => some (s.pushRegex (.look s.mode.lineEnd), rest)
  | c => some (s.pushRegex (s.mode.literal c), rest)

/-- Walks down the text, passing over characters that are already used up. -/
def walk : Nat → State → Text → Option State
  | _, s, [] => some s
  | skip + 1, s, _ :: rest => walk skip s rest
  | 0, s, c :: rest =>
    let blanksEnd := s.mode.skipBlanks (c :: rest)
    if blanksEnd.length ≤ rest.length then walk (rest.length - blanksEnd.length) s rest
    else match step s c rest with
      | some (next, after) => walk (rest.length - after.length) next rest
      | none => none

end Parser

/-! ## 6. Expressions -/

namespace Regex

/-- How deep the notation may nest. -/
def depthLimit : Nat := 250

/-- Reads a regular expression; none if the notation is wrong. -/
def parse? (t : Text) : Option Regex := do
  let s ← Parser.walk 0 {} t
  let whole := s.branches.close
  if s.groups.isEmpty ∧ whole.depth ≤ depthLimit then some whole.regex else none

/-- Reads a regular expression and refuses one that is too big to compile. -/
def compile (t : Text) : Except RegexError Regex :=
  match parse? t with
  | none => .error .malformed
  | some r => if r.size ≤ sizeLimit then .ok r else .error .tooBig

end Regex

end RequestFilter
