import RequestFilter.Unicode.Blank

/-!
# Named sets of characters

How the larger Unicode tables are kept: each set with its names and its ranges, and the ranges as
text.

* `Unicode.readRanges` reads the ranges, and `Unicode.looseName` forgets what does not matter in
  a name;
* `Unicode.NamedSet.find?` looks a set up by name.
-/

namespace RequestFilter

namespace Unicode

/-- A set of characters under one or more names. Its ranges are hexadecimal numbers, `low-high` or
    one number alone, with blanks between them. -/
structure NamedSet where
  names : List String
  ranges : String
  deriving Repr, DecidableEq

/-- The number a text of hexadecimal digits writes; other characters count for nothing. -/
def readHex (t : Text) : Nat :=
  t.foldl (fun n c => match Text.hexDigit? c with
    | some d => 16 * n + d
    | none => n) 0

/-- The inclusive range a piece such as `41-5A` or `AA` writes. -/
def readRange (piece : Text) : Nat × Nat :=
  match Text.splitOnce ['-'] piece with
  | some (low, high) => (readHex low, readHex high)
  | none => (readHex piece, readHex piece)

/-- The ranges a text holds. -/
def readRanges (t : Text) : List (Nat × Nat) :=
  let pieces := Text.splitOn ' ' (t.map fun c => if c = '\n' then ' ' else c)
  (pieces.filter (!·.isEmpty)).map readRange

/-- A text in small letters, without blanks, hyphens, underscores and characters past ASCII. -/
def squeeze (t : Text) : Text :=
  (t.filter fun c => c.toNat < 0x80 && c != ' ' && c != '_' && c != '-').map Char.toLower

/-- A name without what does not matter in it: what `squeeze` takes away, and the word `is` at its
    front. Only `isc` is not cut down to `c`. -/
def looseName : Text → Text
  | i :: s :: rest =>
    if i.toLower = 'i' ∧ s.toLower = 's' then
      if squeeze rest = ['c'] then "isc".toList else squeeze rest
    else squeeze (i :: s :: rest)
  | name => squeeze name

/-- One of the names is the given one, which is in loose form. -/
def hasName (names : List String) (key : Text) : Bool :=
  names.any fun name => looseName name.toList == key

/-- The ranges of a set. -/
def NamedSet.toRanges (set : NamedSet) : List (Nat × Nat) := readRanges set.ranges.toList

/-- The ranges of the set with a name in loose form. -/
def NamedSet.find? (sets : List NamedSet) (key : Text) : Option (List (Nat × Nat)) :=
  (sets.find? fun set => hasName set.names key).map (·.toRanges)

end Unicode

end RequestFilter
