import RequestFilter.Pattern
import RequestFilter.TextMap

/-!
# The rule index

Compiled patterns are kept in the order in which they came in, and two maps point at them: a
signature leads to the pattern that registered it first, and the pattern map holds the patterns
that no signature leads to safely.

* `RuleIndex` is the index, a `PatternId` the position of a pattern in it;
* `RuleIndex.insert` files a pattern under whatever is still free, and refuses it if nothing is;
* `RuleIndex.stats` counts patterns and entries.
-/

namespace RequestFilter

/-- The position of a pattern in its index. -/
abbrev PatternId := Nat

/-- Sizes of an index. -/
structure IndexStats where
  patterns : Nat
  signatures : Nat
  fullPatterns : Nat
  deriving Repr, DecidableEq

/-- Patterns and the two maps that lead to them. -/
structure RuleIndex where
  patterns : Array Pattern := #[]
  signatures : TextMap PatternId := {}
  fullPatterns : TextMap PatternId := {}

namespace RuleIndex

/-! ## 1. Lookups -/

/-- The pattern that registered a signature. -/
def signature (index : RuleIndex) (key : Text) : Option PatternId := index.signatures[key]?

/-- The signature is taken. -/
def hasSignature (index : RuleIndex) (key : Text) : Bool := index.signatures.contains key

/-- The key of the pattern map is taken. -/
def hasFullPattern (index : RuleIndex) (key : Text) : Bool := index.fullPatterns.contains key

/-- The pattern at a position. -/
def pattern (index : RuleIndex) (id : PatternId) : Option Pattern := index.patterns[id]?

/-- The positions that the pattern map points at, in the order of their keys. -/
def fullPatternIds (index : RuleIndex) : List PatternId := index.fullPatterns.toList.map Prod.snd

/-- Nothing leads to any pattern. -/
def isEmpty (index : RuleIndex) : Bool :=
  index.signatures.isEmpty && index.fullPatterns.isEmpty

/-- The sizes of the index. -/
def stats (index : RuleIndex) : IndexStats where
  patterns := index.patterns.size
  signatures := index.signatures.size
  fullPatterns := index.fullPatterns.size

/-! ## 2. Insertion -/

/-- Files a pattern under the signatures that are free and, if there is a key and it is free,
    under that key of the pattern map. None if nothing would lead to the pattern; entries that
    exist keep their pattern. -/
def insert (index : RuleIndex) (pattern : Pattern) (signatures : List Text) (key : Option Text) :
    Option (PatternId × RuleIndex) :=
  let free := signatures.filter (!index.hasSignature ·)
  let freeKey := key.filter (!index.hasFullPattern ·)
  if free.isEmpty && freeKey.isNone then none
  else
    let id := index.patterns.size
    some (id,
      { patterns := index.patterns.push pattern
        signatures := free.foldl (fun m s => m.insertIfNew s id) index.signatures
        fullPatterns := freeKey.toList.foldl (fun m k => m.insertIfNew k id) index.fullPatterns })

end RuleIndex

end RequestFilter
