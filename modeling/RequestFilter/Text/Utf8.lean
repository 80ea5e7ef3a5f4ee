import RequestFilter.Text.Basic

/-!
# Text as bytes

Files hold bytes, lists hold text. `Text.toBytes` writes a text in UTF-8, and reading goes through
one decoder that walks the bytes once:

* `Utf8.decode` gives a character for every well-formed sequence and a gap (`none`) for every
  longest start of one that the next byte, or the end, cuts off;
* `Text.ofBytes?` is the strict reading, which a single gap makes fail;
* `Text.ofBytesLossy` is the forgiving reading, which puts U+FFFD in place of each gap.
-/

namespace RequestFilter

/-- The content of a file. -/
abbrev Bytes := List UInt8

namespace Utf8

/-! ## 1. The decoder -/

/-- What a first byte announces: a whole character, the start of a longer sequence (the bits read
    so far and the bounds of each byte still due), or no character at all. -/
inductive Lead where
  | char (c : Char)
  | sequence (bits : Nat) (due : List (Nat × Nat))
  | invalid
  deriving Repr, DecidableEq

/-- The bounds of a continuation byte that carries no further restriction. -/
def tail : Nat × Nat := (0x80, 0xBF)

/-- Overlong forms, surrogates and numbers past U+10FFFF are shut out by the bounds of the second
    byte. -/
def Lead.ofByte (b : Nat) : Lead :=
  if b < 0x80 then .char (Char.ofNat b)
  else if b < 0xC2 then .invalid
  else if b < 0xE0 then .sequence (b - 0xC0) [tail]
  else if b = 0xE0 then .sequence 0x0 [(0xA0, 0xBF), tail]
  else if b = 0xED then .sequence 0xD [(0x80, 0x9F), tail]
  else if b < 0xF0 then .sequence (b - 0xE0) [tail, tail]
  else if b = 0xF0 then .sequence 0x0 [(0x90, 0xBF), tail, tail]
  else if b < 0xF4 then .sequence (b - 0xF0) [tail, tail, tail]
  else if b = 0xF4 then .sequence 0x4 [(0x80, 0x8F), tail, tail]
  else .invalid

/-- A sequence under way: the bits read so far and the bounds of the bytes still due. Between
    characters nothing is due. -/
structure Progress where
  bits : Nat := 0
  due : List (Nat × Nat) := []
  deriving Repr, DecidableEq

/-- What a byte between characters gives at once, and the sequence it starts. -/
def begin (b : Nat) : List (Option Char) × Progress :=
  match Lead.ofByte b with
  | .char c => ([some c], {})
  | .sequence bits due => ([], ⟨bits, due⟩)
  | .invalid => ([none], {})

/-- One byte. A byte outside the bounds closes the sequence under way with a gap and is then read
    as a first byte. -/
def step (p : Progress) (b : Nat) : List (Option Char) × Progress :=
  match p.due with
  | [] => begin b
  | (low, high) :: due =>
    if low ≤ b ∧ b ≤ high then
      let bits := 64 * p.bits + (b - 0x80)
      if due.isEmpty then ([some (Char.ofNat bits)], {}) else ([], ⟨bits, due⟩)
    else
      let (out, next) := begin b
      (none :: out, next)

/-- The characters and gaps of the bytes to come, given the sequence under way. -/
def decodeFrom (p : Progress) : Bytes → List (Option Char)
  | [] => if p.due.isEmpty then [] else [none]
  | b :: rest =>
    let (out, next) := step p b.toNat
    out ++ decodeFrom next rest

theorem decodeFrom_cons (p : Progress) (b : UInt8) (rest : Bytes) : decodeFrom p (b :: rest) =
    (step p b.toNat).1 ++ decodeFrom (step p b.toNat).2 rest := rfl

/-- The characters of a byte string, with `none` for every stretch that is not one. -/
def decode (bytes : Bytes) : List (Option Char) := decodeFrom {} bytes

end Utf8

namespace Text

/-! ## 2. Reading and writing -/

/-- The UTF-8 form. -/
def toBytes (t : Text) : Bytes := t.flatMap String.utf8EncodeChar

/-- The text the bytes write, if they are well-formed UTF-8. -/
def ofBytes? (bytes : Bytes) : Option Text := (Utf8.decode bytes).mapM id

/-- The text of the bytes, with U+FFFD for every stretch that is not well-formed. -/
def ofBytesLossy (bytes : Bytes) : Text := (Utf8.decode bytes).map (·.getD '\uFFFD')

/-- `byteSize` is the length of the UTF-8 form. -/
theorem length_toBytes (t : Text) : t.toBytes.length = t.byteSize := by
  induction t with
  | nil => rfl
  | cons c rest ih =>
    simp only [toBytes, List.flatMap_cons, List.length_append, byteSize_cons] at ih ⊢
    rw [ih, String.length_utf8EncodeChar]

end Text

end RequestFilter
