import RequestFilter.Regex.Basic

/-!
# Matching

Whether a text contains a match of a regular expression. The positions of a text are the places
before, between and after its characters, and a set of them is a list with one mark per position.
An expression carries a set of positions to the set of positions where its matches end, so that one
pass over the expression follows all starts at once and never goes back.

* `Marks` are sets of positions, with `advance` over one character, `keep` under a condition and
  `join` of two sets;
* `iterate` and `spread` repeat a step, stopping early once nothing changes;
* `Regex.ends` carries a set of positions through an expression;
* `Regex.matchesIn` asks whether a match ends anywhere, having started anywhere.
-/

namespace RequestFilter

/-! ## 1. Sets of positions -/

/-- A set of positions of a text: mark `i` tells whether the place before character `i` belongs to
    it, and the last mark whether the end of the text does. -/
abbrev Marks := List Bool

namespace Marks

/-- Every position of a text. -/
def all (text : Text) : Marks := List.replicate (text.length + 1) true

/-- The positions right after a member of `set` that stands at a marked position. -/
def advance (set : CharSet) (text : Text) (marks : Marks) : Marks :=
  false :: List.zipWith (fun c mark => mark && set.contains c.toNat) text marks

/-- The marked positions that meet a condition, given the character before the first of them. -/
def keep (condition : Look) : Option Char → Text → Marks → Marks
  | _, _, [] => []
  | before, [], mark :: _ => [mark && condition.holds before none]
  | before, c :: rest, mark :: marks =>
    (mark && condition.holds before (some c)) :: keep condition (some c) rest marks

/-- The positions in either set. -/
def join (marks others : Marks) : Marks := List.zipWith or marks others

/-- Some position is marked. -/
def isNonempty (marks : Marks) : Bool := marks.any id

/-- A step taken `n` times. A set that the step leaves alone stays as it is. -/
def iterate (step : Marks → Marks) : Nat → Marks → Marks
  | 0, marks => marks
  | n + 1, marks =>
    let next := step marks
    if next = marks then marks else iterate step n next

/-- Everything reached by taking a step at most `n` times. -/
def spread (step : Marks → Marks) : Nat → Marks → Marks
  | 0, marks => marks
  | n + 1, marks =>
    let next := join marks (step marks)
    if next = marks then marks else spread step n next

end Marks

namespace Regex

/-! ## 2. Matching -/

/-- The positions where a match ends that starts at a marked position. A step that counts moves
    forward, so an unbounded repetition needs no more of them than the text has characters. -/
def ends (text : Text) : Regex → Marks → Marks
  | .empty, marks => marks
  | .chars set, marks => Marks.advance set text marks
  | .look condition, marks => Marks.keep condition none text marks
  | .seq r s, marks => s.ends text (r.ends text marks)
  | .alt r s, marks => Marks.join (r.ends text marks) (s.ends text marks)
  | .rep r least most, marks =>
    let required := Marks.iterate (r.ends text) least marks
    match most with
    | some most => Marks.spread (r.ends text) (most - least) required
    | none => Marks.spread (r.ends text) text.length required

/-- The text contains a match. -/
def matchesIn (r : Regex) (text : Text) : Bool := (r.ends text (Marks.all text)).isNonempty

end Regex

end RequestFilter
