/-!
# Text: characters, bytes and cuts

Everything the filter reads or writes is `Text`, a list of characters. Lengths and limits are
nevertheless measured in UTF-8 bytes, so the two measures live side by side here:

* `byteSize` counts UTF-8 bytes, `takeBytes` cuts a stretch of an exact byte size and refuses to
  cut through a character;
* `splitOn` cuts at every occurrence of a character, `splitOnce` at the first occurrence of a
  text, `splitLast` at the last one;
* `lines` cuts into lines, a line ending being a newline or a carriage return and a newline;
* `occursIn`, `dropStart?` and `equalsIgnoringCase` are the searches and comparisons in use;
* `ofNat` and `toNat?` write and read decimal numbers, `digit?` and `hexDigit?` single digits.
-/

namespace RequestFilter

/-- A text is the list of its characters. -/
abbrev Text := List Char

namespace Text

/-! ## 1. Bytes -/

/-- The number of bytes of the UTF-8 form. -/
def byteSize : Text → Nat
  | [] => 0
  | c :: rest => c.utf8Size + byteSize rest

@[simp] theorem byteSize_nil : byteSize [] = 0 := rfl

@[simp] theorem byteSize_cons (c : Char) (rest : Text) :
    byteSize (c :: rest) = c.utf8Size + byteSize rest := rfl

@[simp] theorem byteSize_append (s t : Text) : byteSize (s ++ t) = byteSize s + byteSize t := by
  induction s with
  | nil => simp
  | cons c rest ih => simp [ih, Nat.add_assoc]

/-- The stretch of exactly `n` bytes a text starts with; none if it is shorter or if byte `n`
    falls inside a character. -/
def takeBytes : Nat → Text → Option Text
  | 0, _ => some []
  | _ + 1, [] => none
  | n + 1, c :: rest =>
    if c.utf8Size ≤ n + 1 then (takeBytes (n + 1 - c.utf8Size) rest).map (c :: ·) else none

/-! ## 2. Searching -/

/-- What is left of a text once `start` is taken off its front. -/
def dropStart? : Text → Text → Option Text
  | [], t => some t
  | _ :: _, [] => none
  | s :: start, c :: rest => if s = c then dropStart? start rest else none

/-- `part` is a contiguous stretch of the text. -/
def occursIn (part : Text) : Text → Bool
  | [] => part.isEmpty
  | c :: rest => part.isPrefixOf (c :: rest) || occursIn part rest

/-- Equality up to the case of ASCII letters. -/
def equalsIgnoringCase (s t : Text) : Bool :=
  s.map Char.toLower == t.map Char.toLower

/-! ## 3. Cutting -/

/-- The pieces between the occurrences of `sep`, empty ones included; there is always one more
    piece than there are separators. -/
def splitOn (sep : Char) : Text → List Text
  | [] => [[]]
  | c :: rest =>
    if c = sep then [] :: splitOn sep rest
    else match splitOn sep rest with
      | [] => [[c]]
      | piece :: pieces => (c :: piece) :: pieces

/-- The text before and after the first occurrence of `sep`. -/
def splitOnce (sep : Text) : Text → Option (Text × Text)
  | [] => if sep.isEmpty then some ([], []) else none
  | c :: rest =>
    match dropStart? sep (c :: rest) with
    | some after => some ([], after)
    | none => (splitOnce sep rest).map fun (before, after) => (c :: before, after)

/-- The text before and after the last occurrence of `sep`. -/
def splitLast (sep : Text) : Text → Option (Text × Text)
  | [] => if sep.isEmpty then some ([], []) else none
  | c :: rest =>
    match splitLast sep rest with
    | some (before, after) => some (c :: before, after)
    | none => (dropStart? sep (c :: rest)).map fun after => ([], after)

/-- The lines of a text without their endings. A newline ends a line, and so does a carriage
    return right before it; a text that stops without a newline still has its last line. -/
def lines : Text → List Text
  | [] => []
  | '\n' :: rest => [] :: lines rest
  | '\r' :: '\n' :: rest => [] :: lines rest
  | c :: rest =>
    match lines rest with
    | [] => [[c]]
    | line :: more => (c :: line) :: more

/-- The pieces with `sep` between them. -/
def join (sep : Text) : List Text → Text
  | [] => []
  | [piece] => piece
  | piece :: pieces => piece ++ sep ++ join sep pieces

/-! ## 4. Digits and numbers -/

/-- The decimal digits of a number, without leading zeros. -/
def ofNat (n : Nat) : Text := Nat.toDigits 10 n

/-- The value of a digit, if the character is an ASCII one. -/
def digit? (c : Char) : Option Nat :=
  if c.isDigit then some (c.toNat - '0'.toNat) else none

/-- The value of a hexadecimal digit, in either case. -/
def hexDigit? (c : Char) : Option Nat :=
  if c.isDigit then some (c.toNat - '0'.toNat)
  else if 'a' ≤ c ∧ c ≤ 'f' then some (c.toNat - 'a'.toNat + 10)
  else if 'A' ≤ c ∧ c ≤ 'F' then some (c.toNat - 'A'.toNat + 10)
  else none

/-- The number a text of ASCII digits writes; none for the empty text and for any other
    character. Leading zeros are allowed. -/
def toNat? (t : Text) : Option Nat :=
  if t.isEmpty then none
  else t.foldlM (fun n c => (digit? c).map (10 * n + ·)) 0

end Text

end RequestFilter
