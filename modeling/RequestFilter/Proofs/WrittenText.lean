import Mathlib.Data.List.Forall2
import RequestFilter.Text.Utf8

/-!
# Text that was written

What is written in UTF-8 is read as what it was.

* `Utf8.Meets`: bytes are within the bounds of those that are due; `decodeFrom_meets`: **bytes that
  are due end in one character**;
* `Utf8.ofByte_two`, `ofByte_three`, `ofByte_four`: what the first byte of a sequence announces;
* `Utf8.decode_encodeChar`: **the bytes of a character are read as that character**;
* `Text.ofBytes?_toBytes`: **a text is read as it was written**.
-/

namespace RequestFilter

namespace Utf8

/-! ## 1. Sequences -/

/-- The bytes are within the bounds of those that are due. -/
def Meets (bytes : Bytes) (due : List (Nat × Nat)) : Prop :=
  List.Forall₂ (fun b bounds => bounds.1 ≤ b.toNat ∧ b.toNat ≤ bounds.2) bytes due

/-- The bits of a sequence once bytes have come in. -/
def bitsWith (bits : Nat) (bytes : Bytes) : Nat :=
  bytes.foldl (fun bits b => 64 * bits + (b.toNat - 0x80)) bits

/-- **The bytes that are due end in one character**, and what follows is read from the beginning. -/
theorem decodeFrom_meets {bytes : Bytes} {due : List (Nat × Nat)} (h : Meets bytes due)
    (hdue : due ≠ []) (bits : Nat) (rest : Bytes) : decodeFrom ⟨bits, due⟩ (bytes ++ rest) =
      some (Char.ofNat (bitsWith bits bytes)) :: decode rest := by
  induction h generalizing bits with
  | nil => exact absurd rfl hdue
  | @cons b bounds bytes due hb hmeets ih =>
    rw [List.cons_append, decodeFrom_cons]
    simp only [step, hb, and_self, if_true]
    cases hmeets with
    | nil => simp [bitsWith, decode]
    | cons _ _ => simpa [bitsWith] using ih (List.cons_ne_nil _ _) _

/-- A first byte is read as one character, with the bytes that it announces. -/
theorem decode_sequence {first : UInt8} {b bits : Nat} {bytes : Bytes} {due : List (Nat × Nat)}
    (hfirst : first.toNat = b) (hlead : Lead.ofByte b = .sequence bits due) (hdue : due ≠ [])
    (h : Meets bytes due) (rest : Bytes) : decode (first :: bytes ++ rest) =
      some (Char.ofNat (bitsWith bits bytes)) :: decode rest := by
  rw [List.cons_append, decode, decodeFrom_cons]
  simpa [step, begin, hfirst, hlead] using decodeFrom_meets h hdue bits rest

section Lead

variable {b : Nat}

/-- Two bytes. -/
theorem ofByte_two (hlow : 0xC2 ≤ b) (hhigh : b < 0xE0) :
    Lead.ofByte b = .sequence (b - 0xC0) [tail] := by
  rw [Lead.ofByte, if_neg (by omega), if_neg (by omega), if_pos hhigh]

/-- Three bytes: the second one shuts out overlong forms and surrogates. -/
theorem ofByte_three (hlow : 0xE0 ≤ b) (hhigh : b < 0xF0) : Lead.ofByte b = .sequence (b - 0xE0)
    [(if b = 0xE0 then 0xA0 else 0x80, if b = 0xED then 0x9F else 0xBF), tail] := by
  rw [Lead.ofByte, if_neg (by omega), if_neg (by omega), if_neg (by omega)]
  split
  · rename_i h
    subst h
    rfl
  split
  · rename_i h
    subst h
    rfl
  · simp only [tail]

/-- Four bytes: the second one shuts out overlong forms and what is past the last character. -/
theorem ofByte_four (hlow : 0xF0 ≤ b) (hhigh : b < 0xF5) : Lead.ofByte b = .sequence (b - 0xF0)
    [(if b = 0xF0 then 0x90 else 0x80, if b = 0xF4 then 0x8F else 0xBF), tail, tail] := by
  rw [Lead.ofByte, if_neg (by omega), if_neg (by omega), if_neg (by omega), if_neg (by omega),
    if_neg (by omega), if_neg (by omega)]
  split
  · rename_i h
    subst h
    rfl
  split
  · rename_i hbefore
    rw [if_neg (by omega : b ≠ 0xF4)]
    rfl
  · obtain rfl : b = 0xF4 := by omega
    rfl

end Lead

/-! ## 2. Characters -/

section Character

variable {n : Nat} (rest : Bytes)

theorem toNat_byte {b : Nat} (h : b < 256) : (UInt8.ofNat b).toNat = b :=
  UInt8.toNat_ofNat_of_lt' h

/-- A byte that carries six bits. -/
theorem toNat_tail (n : Nat) : (UInt8.ofNat (n % 64 + 128)).toNat = n % 64 + 128 :=
  toNat_byte (by omega)

theorem decode_one (h : n ≤ 127) :
    decode (UInt8.ofNat n :: rest) = some (Char.ofNat n) :: decode rest := by
  have hfirst : (UInt8.ofNat n).toNat = n := toNat_byte (by omega)
  have hlead : Lead.ofByte n = .char (Char.ofNat n) := by rw [Lead.ofByte, if_pos (by omega)]
  rw [decode, decodeFrom_cons]
  simp [step, begin, hfirst, hlead, decode]

theorem decode_two (hlow : 127 < n) (hhigh : n ≤ 2047) :
    decode ([UInt8.ofNat (n / 64 % 32 + 192), UInt8.ofNat (n % 64 + 128)] ++ rest) =
      some (Char.ofNat n) :: decode rest := by
  have hfirst : (UInt8.ofNat (n / 64 % 32 + 192)).toNat = n / 64 + 192 := by
    rw [toNat_byte (by omega)]
    omega
  have hlead := ofByte_two (b := n / 64 + 192) (by omega) (by omega)
  have hmeets : Meets [UInt8.ofNat (n % 64 + 128)] [tail] :=
    .cons (by simp only [toNat_tail, tail]; omega) .nil
  rw [decode_sequence hfirst hlead (List.cons_ne_nil _ _) hmeets]
  have hbits : bitsWith (n / 64 + 192 - 192) [UInt8.ofNat (n % 64 + 128)] = n := by
    simp only [bitsWith, List.foldl_cons, List.foldl_nil, toNat_tail]
    omega
  rw [hbits]

theorem decode_three (hlow : 2047 < n) (hhigh : n ≤ 65535) (hvalid : n < 0xD800 ∨ 0xDFFF < n) :
    decode ([UInt8.ofNat (n / 4096 % 16 + 224), UInt8.ofNat (n / 64 % 64 + 128),
      UInt8.ofNat (n % 64 + 128)] ++ rest) = some (Char.ofNat n) :: decode rest := by
  have hfirst : (UInt8.ofNat (n / 4096 % 16 + 224)).toNat = n / 4096 + 224 := by
    rw [toNat_byte (by omega)]
    omega
  have hlead := ofByte_three (b := n / 4096 + 224) (by omega) (by omega)
  have hmeets : Meets [UInt8.ofNat (n / 64 % 64 + 128), UInt8.ofNat (n % 64 + 128)]
      [(if n / 4096 + 224 = 0xE0 then 0xA0 else 0x80,
        if n / 4096 + 224 = 0xED then 0x9F else 0xBF), tail] :=
    .cons (by simp only [toNat_tail]; split <;> split <;> omega)
      (.cons (by simp only [toNat_tail, tail]; omega) .nil)
  rw [decode_sequence hfirst hlead (List.cons_ne_nil _ _) hmeets]
  have hbits : bitsWith (n / 4096 + 224 - 224)
      [UInt8.ofNat (n / 64 % 64 + 128), UInt8.ofNat (n % 64 + 128)] = n := by
    simp only [bitsWith, List.foldl_cons, List.foldl_nil, toNat_tail]
    omega
  rw [hbits]

theorem decode_four (hlow : 65535 < n) (hhigh : n < 0x110000) :
    decode ([UInt8.ofNat (n / 262144 % 8 + 240), UInt8.ofNat (n / 4096 % 64 + 128),
      UInt8.ofNat (n / 64 % 64 + 128), UInt8.ofNat (n % 64 + 128)] ++ rest) =
        some (Char.ofNat n) :: decode rest := by
  have hfirst : (UInt8.ofNat (n / 262144 % 8 + 240)).toNat = n / 262144 + 240 := by
    rw [toNat_byte (by omega)]
    omega
  have hlead := ofByte_four (b := n / 262144 + 240) (by omega) (by omega)
  have hmeets : Meets [UInt8.ofNat (n / 4096 % 64 + 128), UInt8.ofNat (n / 64 % 64 + 128),
      UInt8.ofNat (n % 64 + 128)]
      [(if n / 262144 + 240 = 0xF0 then 0x90 else 0x80,
        if n / 262144 + 240 = 0xF4 then 0x8F else 0xBF), tail, tail] :=
    .cons (by simp only [toNat_tail]; split <;> split <;> omega)
      (.cons (by simp only [toNat_tail, tail]; omega)
        (.cons (by simp only [toNat_tail, tail]; omega) .nil))
  rw [decode_sequence hfirst hlead (List.cons_ne_nil _ _) hmeets]
  have hbits : bitsWith (n / 262144 + 240 - 240) [UInt8.ofNat (n / 4096 % 64 + 128),
      UInt8.ofNat (n / 64 % 64 + 128), UInt8.ofNat (n % 64 + 128)] = n := by
    simp only [bitsWith, List.foldl_cons, List.foldl_nil, toNat_tail]
    omega
  rw [hbits]

/-- **The bytes of a character are read as that character.** -/
theorem decode_encodeChar (c : Char) :
    decode (String.utf8EncodeChar c ++ rest) = some c :: decode rest := by
  have hvalid : c.val.toNat < 0xD800 ∨ 0xDFFF < c.val.toNat ∧ c.val.toNat < 0x110000 := c.valid
  have hchar : Char.ofNat c.val.toNat = c := Char.ofNat_toNat c
  unfold String.utf8EncodeChar
  generalize c.val.toNat = n at hvalid hchar
  subst hchar
  simp only
  split
  · exact decode_one rest ‹_›
  split
  · exact decode_two rest (by omega) ‹_›
  split
  · exact decode_three rest (by omega) ‹_› (by omega)
  · exact decode_four rest (by omega) (by omega)

end Character

end Utf8

namespace Text

/-! ## 3. Texts -/

/-- The characters of a text are read first, whatever bytes follow. -/
theorem decode_toBytes_append (t : Text) (bytes : Bytes) :
    Utf8.decode (t.toBytes ++ bytes) = t.map some ++ Utf8.decode bytes := by
  induction t with
  | nil => rfl
  | cons c rest ih =>
    rw [toBytes, List.flatMap_cons, List.append_assoc, Utf8.decode_encodeChar]
    exact congrArg (some c :: ·) ih

theorem decode_toBytes (t : Text) : Utf8.decode t.toBytes = t.map some := by
  simpa [Utf8.decode, Utf8.decodeFrom] using decode_toBytes_append t []

/-- **A text is read as it was written.** -/
theorem ofBytes?_toBytes (t : Text) : ofBytes? t.toBytes = some t := by
  rw [ofBytes?, decode_toBytes, List.mapM_map]
  exact (List.mapM_pure (m := Option)).trans (congrArg some (List.map_id t))

end Text

end RequestFilter
