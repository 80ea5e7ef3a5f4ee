import RequestFilter.Regex.Escape

/-!
# Bracketed classes

Reading what stands between `[` and `]`: characters, ranges, escapes, nested classes, names such as
`[:alpha:]`, and the operators `&&`, `--` and `~~`, which bind to the left.

* `Bracket.State` is the reader between two items, `Bracket.step` reads one item;
* `Bracket.read?` reads a whole class from the text behind its opening bracket, and tells how deep
  the class nests.

The reader walks down the text. A step that uses up more than one character says so, and the walk
passes over as many.
-/

namespace RequestFilter

namespace Bracket

/-! ## 1. The state of the reader -/

/-- A set together with how deep its notation nests. -/
structure Nested where
  set : CharSet
  depth : Nat
  deriving Repr, DecidableEq

/-- The operators between classes. -/
inductive Operator where
  | intersection
  | difference
  | symmetricDifference
  deriving Repr, DecidableEq

/-- What waits for the class under way to end: a class around it, with the items that class has so
    far and whether it is negated, or an operator with its left operand. -/
inductive Frame where
  | opened (items : List Nested) (negated : Bool)
  | operator (op : Operator) (left : Nested)
  deriving Repr, DecidableEq

/-- Right behind the opening bracket a caret negates; then minus signs, or one closing bracket,
    stand for themselves. -/
inductive Phase where
  | caret
  | first
  | body
  deriving Repr, DecidableEq

/-- The reader: the phase, the items of the class under way (last one first) and what waits for
    its end (innermost first). -/
structure State where
  phase : Phase
  items : List Nested
  frames : List Frame
  deriving Repr, DecidableEq

/-- The reader behind the first opening bracket. -/
def State.start : State := ⟨.caret, [], [.opened [] false]⟩

/-- What a step of the reader comes to. -/
inductive Step where
  | go (state : State) (rest : Text)
  | done (result : Nested) (rest : Text)
  | refused
  deriving Repr, DecidableEq

/-! ## 2. Ends of classes and operands -/

/-- The items of a class as one set; several of them nest one deeper than each. -/
def unite : List Nested → Nested
  | [] => ⟨.empty, 0⟩
  | [item] => item
  | item :: items =>
    ⟨items.foldl (fun set i => .union i.set set) item.set,
     items.foldl (fun depth i => max depth i.depth) item.depth + 1⟩

/-- Joins two operands; both are closed under case variants first. -/
def combine (mode : Mode) (op : Operator) (left right : Nested) : Nested :=
  let l := mode.withCaseVariants left.set
  let r := mode.withCaseVariants right.set
  let set := match op with
    | .intersection => .inter l r
    | .difference => .difference l r
    | .symmetricDifference => .symmetricDifference l r
  ⟨set, max left.depth right.depth + 1⟩

/-- The operand under way, joined with the operator that waits for it, and what else waits. -/
def operand (mode : Mode) (s : State) : Nested × List Frame :=
  match s.frames with
  | .operator op left :: frames => (combine mode op left (unite s.items), frames)
  | frames => (unite s.items, frames)

/-- An operator: what was read so far becomes its left operand. -/
def operator (mode : Mode) (op : Operator) (s : State) (rest : Text) : Step :=
  let (left, frames) := operand mode s
  .go ⟨.body, [], .operator op left :: frames⟩ rest

/-- A closing bracket. -/
def closing (mode : Mode) (s : State) (rest : Text) : Step :=
  let (inner, frames) := operand mode s
  match frames with
  | .opened items negated :: outer =>
    match mode.negate? negated (mode.withCaseVariants inner.set) with
    | none => .refused
    | some set =>
      let result : Nested := ⟨set, inner.depth + 1⟩
      if outer.isEmpty then .done result rest else .go ⟨.body, result :: items, outer⟩ rest
  | _ => .refused

/-! ## 3. Items -/

/-- A class name between `[:` and `:]`, perhaps behind a caret. -/
def named? (mode : Mode) (rest : Text) : Option (Option CharSet × Text) := do
  let start ← Text.dropStart? [':'] rest
  let (negated, start) := match Text.dropStart? ['^'] start with
    | some after => (true, after)
    | none => (false, start)
  let set ← CharSet.ofPosixName? (start.takeWhile (· != ':'))
  let after ← Text.dropStart? [':', ']'] (start.dropWhile (· != ':'))
  return (mode.negate? negated (mode.withCaseVariants set), after)

/-- A character or an escape. -/
def atom? (mode : Mode) : Text → Option (Escape × Text)
  | [] => none
  | '\\' :: rest => Escape.read? mode rest
  | c :: rest => some (.char c, rest)

/-- An item on its own. Conditions are no members of a class, and without Unicode neither are
    characters past ASCII. -/
def single? (mode : Mode) : Escape → Option Nested
  | .char c => if !mode.unicode && 0x7F < c.toNat then none else some ⟨.single c, 0⟩
  | .set s => some ⟨s, 0⟩
  | .look _ => none

/-- A range between two characters in order. -/
def range? (mode : Mode) : Escape → Escape → Option Nested
  | .char low, .char high =>
    if low ≤ high ∧ (mode.unicode ∨ high.toNat ≤ 0x7F) then some ⟨.between low high, 0⟩ else none
  | _, _ => none

/-- A character, an escape or a range. A minus sign makes a range unless a closing bracket or
    another minus sign comes next. -/
def item? (mode : Mode) (t : Text) : Option (Nested × Text) := do
  let (low, rest) ← atom? mode t
  match mode.skipBlanks rest with
  | '-' :: behind =>
    let start := mode.skipBlanks behind
    if start.head? = some ']' ∨ start.head? = some '-' then
      return (← single? mode low, '-' :: behind)
    let (high, after) ← atom? mode start
    return (← range? mode low high, after)
  | next => return (← single? mode low, next)

/-- An item, taken into the class under way. -/
def item (mode : Mode) (s : State) (t : Text) : Step :=
  match item? mode t with
  | some (i, rest) => .go { s with phase := .body, items := i :: s.items } rest
  | none => .refused

/-! ## 4. Steps -/

/-- One step inside the class, on a first character and the text behind it. -/
def bodyStep (mode : Mode) (s : State) (c : Char) (rest : Text) : Step :=
  match c, rest with
  | '[', rest =>
    match named? mode rest with
    | some (some set, after) =>
      .go { s with phase := .body, items := ⟨set, 0⟩ :: s.items } after
    | some (none, _) => .refused
    | none => .go ⟨.caret, [], .opened s.items false :: s.frames⟩ rest
  | ']', rest => closing mode s rest
  | '&', '&' :: rest => operator mode .intersection s rest
  | '-', '-' :: rest => operator mode .difference s rest
  | '~', '~' :: rest => operator mode .symmetricDifference s rest
  | c, rest => item mode s (c :: rest)

/-- Notes that the class just opened is negated. -/
def State.negate (s : State) : State :=
  match s.frames with
  | .opened items _ :: outer => { s with frames := .opened items true :: outer }
  | _ => s

/-- One step in the phase right behind the opening bracket and its caret. -/
def firstStep (mode : Mode) (s : State) (c : Char) (rest : Text) : Step :=
  if c = '-' then .go { s with phase := .first, items := ⟨.single '-', 0⟩ :: s.items } rest
  else if c = ']' ∧ s.items.isEmpty then
    .go { s with phase := .body, items := [⟨.single ']', 0⟩] } rest
  else bodyStep mode s c rest

/-- One step of the reader. -/
def step (mode : Mode) (s : State) (c : Char) (rest : Text) : Step :=
  match s.phase with
  | .caret =>
    if c = '^' then .go { s.negate with phase := .first } rest else firstStep mode s c rest
  | .first => firstStep mode s c rest
  | .body => bodyStep mode s c rest

/-! ## 5. The walk -/

/-- Walks down the text, passing over characters that are already used up. -/
def walk (mode : Mode) : Nat → State → Text → Option (Nested × Text)
  | _, _, [] => none
  | skip + 1, s, _ :: rest => walk mode skip s rest
  | 0, s, c :: rest =>
    let blanksEnd := mode.skipBlanks (c :: rest)
    if blanksEnd.length ≤ rest.length then walk mode (rest.length - blanksEnd.length) s rest
    else match step mode s c rest with
      | .go next after => walk mode (rest.length - after.length) next rest
      | .done result after => some (result, after)
      | .refused => none

/-- Reads a class from the text behind its opening bracket. -/
def read? (mode : Mode) (t : Text) : Option (Nested × Text) := walk mode 0 .start t

end Bracket

end RequestFilter
