import RequestFilter.Regex.CharSet

/-!
# Regular expressions

The shape of a regular expression once its notation has been read: groups, flags and laziness are
gone, because only the question whether a text contains a match is ever asked.

* `Regex` is the expression itself;
* `Look` is a condition on the two characters around a position, decided by `Look.holds`;
* `Regex.concat` and `Regex.alternation` join lists of expressions;
* `Regex.size` estimates the memory of a compiled form, and `Regex.sizeLimit` bounds it.
-/

namespace RequestFilter

/-! ## 1. Conditions on a position -/

/-- How a position lies to the words around it. The half conditions look at one side only. -/
inductive WordEdge where
  | boundary
  | inside
  | start
  | finish
  | startHalf
  | finishHalf
  deriving Repr, DecidableEq

/-- A condition on a position between two characters. -/
inductive Look where
  | textStart
  | textEnd
  | lineStart
  | lineEnd
  | crlfLineStart
  | crlfLineEnd
  | word (unicode : Bool) (edge : WordEdge)
  deriving Repr, DecidableEq

namespace WordEdge

/-- Decides the condition from whether a word character stands before and after. -/
def holds : WordEdge → Bool → Bool → Bool
  | .boundary, before, after => before != after
  | .inside, before, after => before == after
  | .start, before, after => !before && after
  | .finish, before, after => before && !after
  | .startHalf, before, _ => !before
  | .finishHalf, _, after => !after

end WordEdge

namespace Look

/-- Decides the condition from the characters before and after, absent at the ends of the text. A
    position inside a carriage return and newline pair neither starts nor ends a line. -/
def holds : Look → Option Char → Option Char → Bool
  | .textStart, before, _ => before.isNone
  | .textEnd, _, after => after.isNone
  | .lineStart, before, _ => before.isNone || before == some '\n'
  | .lineEnd, _, after => after.isNone || after == some '\n'
  | .crlfLineStart, before, after =>
    before.isNone || before == some '\n' || (before == some '\r' && after != some '\n')
  | .crlfLineEnd, before, after =>
    after.isNone || after == some '\r' || (after == some '\n' && before != some '\r')
  | .word unicode edge, before, after =>
    let isWord (c : Option Char) := c.any fun c => (CharSet.words unicode).contains c.toNat
    edge.holds (isWord before) (isWord after)

end Look

/-! ## 2. Expressions -/

/-- A regular expression. `rep r least most` is `r` at least `least` times and, if there is a
    bound, at most `most` times. -/
inductive Regex where
  | empty
  | chars (set : CharSet)
  | look (condition : Look)
  | seq (r s : Regex)
  | alt (r s : Regex)
  | rep (r : Regex) (least : Nat) (most : Option Nat)
  deriving Repr, DecidableEq

namespace Regex

/-- One expression after the other. -/
def concat : List Regex → Regex
  | [] => .empty
  | [r] => r
  | r :: rs => .seq r (concat rs)

/-- One expression or another. -/
def alternation : List Regex → Regex
  | [] => .empty
  | [r] => r
  | r :: rs => .alt r (alternation rs)

/-! ## 3. Size -/

/-- An estimate, in bytes, of an expression compiled to an automaton over bytes: a repetition is
    spelled out as often as it counts, and a range takes a couple of states. -/
def size : Regex → Nat
  | .empty => 32
  | .chars set => 32 + 64 * (set.weight - 1)
  | .look _ => 32
  | .seq r s => r.size + s.size
  | .alt r s => 32 + r.size + s.size
  | .rep r least none => 32 + r.size * max least 1
  | .rep r least (some most) => 32 + r.size * least + (32 + r.size) * (most - least)

/-- The size, in bytes, past which an expression is refused. -/
def sizeLimit : Nat := 10 * 1024 * 1024

end Regex

end RequestFilter
