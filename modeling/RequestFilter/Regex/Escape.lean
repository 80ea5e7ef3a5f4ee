import RequestFilter.Regex.Mode
import RequestFilter.Regex.Property

/-!
# Escapes

What stands behind a backslash in a regular expression.

* `Escape` is the meaning of an escape: a character, a set of characters or a condition;
* `Escape.read?` reads one from the text behind the backslash.

Before ASCII punctuation the backslash takes away any special meaning. Before a letter or digit it
must start one of the known escapes; there are no back references.
-/

namespace RequestFilter

/-- What an escape stands for. -/
inductive Escape where
  | char (c : Char)
  | set (s : CharSet)
  | look (condition : Look)
  deriving Repr, DecidableEq

namespace Escape

/-! ## 1. Characters by number -/

/-- The character with a number, if there is one. -/
def charOfNat? (n : Nat) : Option Char :=
  if n.isValidChar then some (Char.ofNat n) else none

/-- The value of exactly so many digits more, behind the value read so far. -/
def fixedHex? (mode : Mode) : Nat → Nat → Text → Option (Nat × Text)
  | 0, value, t => some (value, t)
  | _ + 1, _, [] => none
  | n + 1, value, c :: rest =>
    (Text.hexDigit? c).bind fun d => fixedHex? mode n (16 * value + d) (mode.skipBlanks rest)

/-- Reads a character by its number: digits in braces, or exactly `width` digits. Without Unicode
    a number of two digits is a byte, and a byte above 0x7F is no character. -/
def numbered? (mode : Mode) (width : Nat) (t : Text) : Option (Escape × Text) :=
  match mode.skipBlanks t with
  | '\x7b' :: rest => do
    let (digits, after) ← mode.untilBrace false rest
    if digits.isEmpty then none
    let value ← digits.foldlM (fun n c => (Text.hexDigit? c).map (16 * n + ·)) 0
    return (.char (← charOfNat? value), mode.skipBlanks after)
  | start => do
    let (value, after) ← fixedHex? mode width 0 start
    if width = 2 ∧ 0x7F < value ∧ !mode.unicode then none
    return (.char (← charOfNat? value), after)

/-! ## 2. Conditions and classes -/

/-- The names of the conditions written in braces behind `\b`. -/
def edgeNames : List (Text × WordEdge) :=
  [("start".toList, .start), ("end".toList, .finish),
   ("start-half".toList, .startHalf), ("end-half".toList, .finishHalf)]

/-- Reads what follows `\b`. Braces that open with a letter or a minus sign name a special
    condition; any other brace counts repetitions of the plain one. -/
def wordBoundary? (mode : Mode) (t : Text) : Option (Escape × Text) :=
  let plain := some (.look (.word mode.unicode .boundary), t)
  match t with
  | '\x7b' :: rest =>
    match mode.skipBlanks rest with
    | [] => none
    | c :: _ =>
      if c.isAlpha || c == '-' then do
        let (name, after) ← mode.untilBrace false rest
        let edge ← edgeNames.lookup name
        return (.look (.word mode.unicode edge), after)
      else plain
  | _ => plain

/-- A class of characters, or its complement. -/
def charClass? (mode : Mode) (negated : Bool) (set : CharSet) (rest : Text) :
    Option (Escape × Text) :=
  (mode.negate? negated set).map fun s => (.set s, rest)

/-- The set of a Unicode name: one letter, or what stands between braces. -/
def named? (mode : Mode) (t : Text) : Option (CharSet × Text) :=
  match mode.skipBlanks t with
  | [] => none
  | '\\' :: _ => none
  | '\x7b' :: inside => do
    let (query, rest) ← mode.untilBrace false inside
    return (← CharSet.ofQuery? query, rest)
  | letter :: rest => (CharSet.ofName? [letter]).map (·, rest)

/-- A set by a Unicode name, or its complement. Only a Unicode mode has them. -/
def property? (mode : Mode) (negated : Bool) (t : Text) : Option (Escape × Text) :=
  if mode.unicode then
    (named? mode t).bind fun (members, rest) =>
      charClass? mode negated (mode.withCaseVariants members) rest
  else none

/-! ## 3. Escapes -/

/-- Reads an escape from the text behind the backslash. -/
def read? (mode : Mode) : Text → Option (Escape × Text)
  | [] => none
  | c :: rest =>
    match c with
    | 'x' => numbered? mode 2 rest
    | 'u' => numbered? mode 4 rest
    | 'U' => numbered? mode 8 rest
    | 'd' => charClass? mode false (.digits mode.unicode) rest
    | 'D' => charClass? mode true (.digits mode.unicode) rest
    | 's' => charClass? mode false (.blanks mode.unicode) rest
    | 'S' => charClass? mode true (.blanks mode.unicode) rest
    | 'w' => charClass? mode false (.words mode.unicode) rest
    | 'W' => charClass? mode true (.words mode.unicode) rest
    | 'p' => property? mode false rest
    | 'P' => property? mode true rest
    | 'a' => some (.char '\x07', rest)
    | 'f' => some (.char '\x0c', rest)
    | 't' => some (.char '\t', rest)
    | 'n' => some (.char '\n', rest)
    | 'r' => some (.char '\r', rest)
    | 'v' => some (.char '\x0b', rest)
    | 'A' => some (.look .textStart, rest)
    | 'z' => some (.look .textEnd, rest)
    | 'b' => wordBoundary? mode rest
    | 'B' => some (.look (.word mode.unicode .inside), rest)
    | '<' => some (.look (.word mode.unicode .start), rest)
    | '>' => some (.look (.word mode.unicode .finish), rest)
    | c => if c.toNat < 0x80 ∧ ¬ c.isAlphanum then some (.char c, rest) else none

end Escape

end RequestFilter
