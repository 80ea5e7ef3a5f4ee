import RequestFilter.Unicode.Blank
import RequestFilter.Unicode.CaseFold
import RequestFilter.Unicode.Digit
import RequestFilter.Unicode.Word

/-!
# Sets of characters

What a character class of a regular expression stands for. Sets are kept as they are written, as
unions, intersections and complements of ranges, and membership is decided point by point.

* `CharSet.contains` is membership of a code point;
* `CharSet.single`, `CharSet.difference` and the other short-hands build sets;
* `CharSet.ofPosixName?` knows the bracketed class names, which are about ASCII only;
* `CharSet.weight` bounds how many ranges a set comes to.
-/

namespace RequestFilter

/-- A set of characters, by code point. The last two constructors close a set under case variants,
    of all characters or of the ASCII letters only. -/
inductive CharSet where
  | ranges (rs : List (Nat × Nat))
  | complement (s : CharSet)
  | union (s t : CharSet)
  | inter (s t : CharSet)
  | caseless (s : CharSet)
  | asciiCaseless (s : CharSet)
  deriving Repr, DecidableEq

namespace CharSet

/-! ## 1. Membership -/

/-- The other case of an ASCII letter; every other code point is its own. -/
def swapAsciiCase (n : Nat) : Nat :=
  if 0x41 ≤ n ∧ n ≤ 0x5A then n + 0x20
  else if 0x61 ≤ n ∧ n ≤ 0x7A then n - 0x20
  else n

/-- A code point belongs to the set. -/
def contains : CharSet → Nat → Bool
  | .ranges rs, n => Unicode.inRanges rs n
  | .complement s, n => !s.contains n
  | .union s t, n => s.contains n || t.contains n
  | .inter s t, n => s.contains n && t.contains n
  | .caseless s, n => (Unicode.caseVariants n).any s.contains
  | .asciiCaseless s, n => s.contains n || s.contains (swapAsciiCase n)

/-! ## 2. Building sets -/

/-- The set without members. -/
def empty : CharSet := .ranges []

/-- The set of one character. -/
def single (c : Char) : CharSet := .ranges [(c.toNat, c.toNat)]

/-- The characters from `low` to `high`, both included. -/
def between (low high : Char) : CharSet := .ranges [(low.toNat, high.toNat)]

/-- The members of the first set that the second one lacks. -/
def difference (s t : CharSet) : CharSet := .inter s (.complement t)

/-- The members of exactly one of the two sets. -/
def symmetricDifference (s t : CharSet) : CharSet := .union (difference s t) (difference t s)

/-- The set itself, or its complement. -/
def negateIf (negated : Bool) (s : CharSet) : CharSet := if negated then .complement s else s

/-- Every character. -/
def any : CharSet := .ranges [(0, 0x10FFFF)]

/-- The decimal digits, of all scripts or of ASCII. -/
def digits (unicode : Bool) : CharSet :=
  .ranges (if unicode then Unicode.digitRanges else [(0x30, 0x39)])

/-- White space, of Unicode or of ASCII. -/
def blanks (unicode : Bool) : CharSet :=
  .ranges (if unicode then Unicode.blankRanges else [(0x9, 0xD), (0x20, 0x20)])

/-- The word characters, of Unicode or of ASCII. -/
def words (unicode : Bool) : CharSet :=
  .ranges (if unicode then Unicode.wordRanges
    else [(0x30, 0x39), (0x41, 0x5A), (0x5F, 0x5F), (0x61, 0x7A)])

/-- The bracketed class names and the ASCII characters each stands for. -/
def posixNames : List (Text × List (Nat × Nat)) :=
  [("alnum".toList, [(0x30, 0x39), (0x41, 0x5A), (0x61, 0x7A)]),
   ("alpha".toList, [(0x41, 0x5A), (0x61, 0x7A)]),
   ("ascii".toList, [(0x0, 0x7F)]),
   ("blank".toList, [(0x9, 0x9), (0x20, 0x20)]),
   ("cntrl".toList, [(0x0, 0x1F), (0x7F, 0x7F)]),
   ("digit".toList, [(0x30, 0x39)]),
   ("graph".toList, [(0x21, 0x7E)]),
   ("lower".toList, [(0x61, 0x7A)]),
   ("print".toList, [(0x20, 0x7E)]),
   ("punct".toList, [(0x21, 0x2F), (0x3A, 0x40), (0x5B, 0x60), (0x7B, 0x7E)]),
   ("space".toList, [(0x9, 0xD), (0x20, 0x20)]),
   ("upper".toList, [(0x41, 0x5A)]),
   ("word".toList, [(0x30, 0x39), (0x41, 0x5A), (0x5F, 0x5F), (0x61, 0x7A)]),
   ("xdigit".toList, [(0x30, 0x39), (0x41, 0x46), (0x61, 0x66)])]

/-- The set a bracketed class name stands for. -/
def ofPosixName? (name : Text) : Option CharSet := (posixNames.lookup name).map .ranges

/-! ## 3. Weight -/

/-- A bound on the number of ranges of the set. -/
def weight : CharSet → Nat
  | .ranges rs => rs.length
  | .complement s => s.weight + 1
  | .union s t => s.weight + t.weight
  | .inter s t => s.weight + t.weight
  | .caseless s => 2 * s.weight
  | .asciiCaseless s => 2 * s.weight

@[simp] theorem contains_single (c : Char) (n : Nat) :
    (single c).contains n = decide (n = c.toNat) := by
  simp only [single, contains, Unicode.inRanges, List.any_cons, List.any_nil, Bool.or_false]
  rw [← Bool.decide_and]
  exact decide_eq_decide.mpr ⟨fun h => Nat.le_antisymm h.2 h.1, fun h => by omega⟩

end CharSet

end RequestFilter
