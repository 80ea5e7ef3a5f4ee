import RequestFilter.Text.Utf8

/-!
# MD5

The digest that names the cached copy of a filter list.

* `Md5.State` is the running digest of four words, `Md5.compress` takes in a block of 64 bytes;
* `Md5.digest` is the digest of a byte string, sixteen bytes long (`Md5.length_digest`);
* `Md5.hex` writes it in 32 lower-case hexadecimal digits (`Md5.length_hex`, `Md5.mem_hex`).
-/

namespace RequestFilter

namespace Md5

/-! ## 1. Blocks -/

/-- The four words of the running digest. -/
structure State where
  a : UInt32
  b : UInt32
  c : UInt32
  d : UInt32
  deriving Repr, DecidableEq

/-- The digest before the first block. -/
def initial : State := ⟨0x67452301, 0xefcdab89, 0x98badcfe, 0x10325476⟩

/-- The constants of the 64 steps: the fractions of the sine. -/
def sines : List UInt32 :=
  [0xd76aa478, 0xe8c7b756, 0x242070db, 0xc1bdceee, 0xf57c0faf, 0x4787c62a,
   0xa8304613, 0xfd469501, 0x698098d8, 0x8b44f7af, 0xffff5bb1, 0x895cd7be,
   0x6b901122, 0xfd987193, 0xa679438e, 0x49b40821, 0xf61e2562, 0xc040b340,
   0x265e5a51, 0xe9b6c7aa, 0xd62f105d, 0x02441453, 0xd8a1e681, 0xe7d3fbc8,
   0x21e1cde6, 0xc33707d6, 0xf4d50d87, 0x455a14ed, 0xa9e3e905, 0xfcefa3f8,
   0x676f02d9, 0x8d2a4c8a, 0xfffa3942, 0x8771f681, 0x6d9d6122, 0xfde5380c,
   0xa4beea44, 0x4bdecfa9, 0xf6bb4b60, 0xbebfbc70, 0x289b7ec6, 0xeaa127fa,
   0xd4ef3085, 0x04881d05, 0xd9d4d039, 0xe6db99e5, 0x1fa27cf8, 0xc4ac5665,
   0xf4292244, 0x432aff97, 0xab9423a7, 0xfc93a039, 0x655b59c3, 0x8f0ccc92,
   0xffeff47d, 0x85845dd1, 0x6fa87e4f, 0xfe2ce6e0, 0xa3014314, 0x4e0811a1,
   0xf7537e82, 0xbd3af235, 0x2ad7d2bb, 0xeb86d391]

/-- The rotations of each round of sixteen steps, which repeat every four steps. -/
def rotations : List (List UInt32) :=
  [[7, 12, 17, 22], [5, 9, 14, 20], [4, 11, 16, 23], [6, 10, 15, 21]]

/-- A word turned left. -/
def rotate (x n : UInt32) : UInt32 := (x <<< n) ||| (x >>> (32 - n))

/-- The round function of a step, and which word of the block the step takes in. -/
def mix (i : Nat) (s : State) : UInt32 × Nat :=
  match i / 16 with
  | 0 => ((s.b &&& s.c) ||| (~~~s.b &&& s.d), i)
  | 1 => ((s.d &&& s.b) ||| (~~~s.d &&& s.c), (5 * i + 1) % 16)
  | 2 => (s.b ^^^ s.c ^^^ s.d, (3 * i + 5) % 16)
  | _ => (s.c ^^^ (s.b ||| ~~~s.d), (7 * i) % 16)

/-- One step on the words of a block. -/
def round (words : List UInt32) (s : State) (i : Nat) : State :=
  let (f, word) := mix i s
  let sum := s.a + f + sines.getD i 0 + words.getD word 0
  let turn := (rotations.getD (i / 16) []).getD (i % 4) 0
  ⟨s.d, s.b + rotate sum turn, s.b, s.c⟩

/-- Takes in the words of a block. -/
def compress (s : State) (words : List UInt32) : State :=
  let t := (List.range 64).foldl (round words) s
  ⟨s.a + t.a, s.b + t.b, s.c + t.c, s.d + t.d⟩

/-! ## 2. Bytes and words -/

/-- Words of four bytes each, lowest byte first. -/
def words : Bytes → List UInt32
  | a :: b :: c :: d :: rest =>
    (a.toUInt32 ||| (b.toUInt32 <<< 8) ||| (c.toUInt32 <<< 16) ||| (d.toUInt32 <<< 24)) ::
      words rest
  | _ => []

/-- The lowest `n` bytes of a number, lowest first. -/
def lowBytes : Nat → Nat → Bytes
  | 0, _ => []
  | n + 1, value => (value % 256).toUInt8 :: lowBytes n (value / 256)

/-- The bytes with a mark, zeros and their own length in bits, up to a whole number of blocks. -/
def padded (bytes : Bytes) : Bytes :=
  bytes ++ 0x80 :: List.replicate ((119 - bytes.length % 64) % 64) 0 ++
    lowBytes 8 (8 * bytes.length)

/-- The digest: sixteen bytes. -/
def digest (bytes : Bytes) : Bytes :=
  let all := padded bytes
  let s := (List.range (all.length / 64)).foldl
    (fun s i => compress s (words ((all.drop (64 * i)).take 64))) initial
  [s.a, s.b, s.c, s.d].flatMap fun w => lowBytes 4 w.toNat

/-! ## 3. Hexadecimal digits -/

/-- The lower-case digit of a value below sixteen. -/
def hexDigit (n : Nat) : Char := "0123456789abcdef".toList.getD n '0'

/-- The digest in hexadecimal digits. -/
def hex (bytes : Bytes) : Text :=
  (digest bytes).flatMap fun b => [hexDigit (b.toNat / 16), hexDigit (b.toNat % 16)]

theorem length_lowBytes (n value : Nat) : (lowBytes n value).length = n := by
  induction n generalizing value with
  | zero => rfl
  | succ n ih => simp [lowBytes, ih]

/-- **A digest has sixteen bytes.** -/
theorem length_digest (bytes : Bytes) : (digest bytes).length = 16 := by
  simp [digest, length_lowBytes]

/-- **A digest is written in 32 digits.** -/
theorem length_hex (bytes : Bytes) : (hex bytes).length = 32 := by
  simp [hex, List.length_flatMap, List.map_const', length_digest]

theorem hexDigit_mem (n : Nat) : hexDigit n ∈ "0123456789abcdef".toList := by
  unfold hexDigit
  rw [List.getD_eq_getElem?_getD]
  cases h : "0123456789abcdef".toList[n]? with
  | none => decide
  | some c => exact List.mem_of_getElem? h

/-- **All of them are lower-case hexadecimal digits.** -/
theorem mem_hex {bytes : Bytes} {c : Char} (h : c ∈ hex bytes) :
    c ∈ "0123456789abcdef".toList := by
  simp only [hex, List.mem_flatMap, List.mem_cons, List.not_mem_nil, or_false] at h
  obtain ⟨b, -, rfl | rfl⟩ := h
  · exact hexDigit_mem _
  · exact hexDigit_mem _

end Md5

end RequestFilter
