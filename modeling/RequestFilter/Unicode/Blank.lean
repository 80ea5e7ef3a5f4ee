import RequestFilter.Text.Basic

/-!
# Blank characters

The characters with the Unicode property `White_Space`, and trimming by them.

* `Unicode.isBlank` is the property;
* `Text.trimStart`, `Text.trimEnd` and `Text.trim` take blanks off the ends of a text.
-/

namespace RequestFilter

namespace Unicode

/-- The code points with the property `White_Space`, as inclusive ranges. -/
def blankRanges : List (Nat × Nat) :=
  [(0x9, 0xD), (0x20, 0x20), (0x85, 0x85), (0xA0, 0xA0), (0x1680, 0x1680), (0x2000, 0x200A),
   (0x2028, 0x2029), (0x202F, 0x202F), (0x205F, 0x205F), (0x3000, 0x3000)]

/-- A number lies in one of the inclusive ranges. -/
def inRanges (ranges : List (Nat × Nat)) (n : Nat) : Bool :=
  ranges.any fun (low, high) => low ≤ n && n ≤ high

/-- The character is white space. -/
def isBlank (c : Char) : Bool := inRanges blankRanges c.toNat

end Unicode

namespace Text

/-- The text without the blanks it starts with. -/
def trimStart (t : Text) : Text := t.dropWhile Unicode.isBlank

/-- The text without the blanks it ends with. -/
def trimEnd (t : Text) : Text := (t.reverse.dropWhile Unicode.isBlank).reverse

/-- The text without the blanks at either end. -/
def trim (t : Text) : Text := trimEnd (trimStart t)

end Text

end RequestFilter
