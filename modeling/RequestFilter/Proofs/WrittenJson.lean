import Mathlib.Data.List.Basic
import RequestFilter.Json.Token
import RequestFilter.Json.Writer

/-!
# JSON that was written

What texts are JSON, said without a reader, and what tokens the smallest parts of them give. A
number says nowhere itself that it is over, so what follows it has to (`Json.Ends`).

* `Json.Spells`: what stands between the quotes of a string spells a text, with escapes of any form;
  `Json.Quotes`: a string with its quotes does;
* `Json.IsNumber`, `Json.IsString`, `Json.IsValue`: numbers, strings of any content, and values;
* `Scanner.Passes`: a text is taken in without a token; `passes_spells`: so is what spells a text;
* `scan_quotes`: **a string is read as the text that it spells**; `scan_isString`, `scan_isNumber`,
  `scan_word`: the other values without parts are one token each;
* `scan_ofNat`: **the decimal digits of a number are read as that number**;
* `quotes_quote`: a text spells itself as it is written.
-/

namespace RequestFilter

namespace Text

/-! ## 1. Decimal numbers -/

theorem isDigit_of_mem_ofNat {n : Nat} {c : Char} (h : c ∈ ofNat n) : c.isDigit = true :=
  Nat.isDigit_of_mem_toDigits (by decide) (by decide) h

/-- No number but zero starts with a zero. -/
theorem eq_zero_of_head?_ofNat {n : Nat} (h : (ofNat n).head? = some '0') : n = 0 := by
  induction n using Nat.strongRecOn with
  | ind n ih =>
    unfold ofNat at h ih
    by_cases hlt : n < 10
    · rw [Nat.toDigits_of_lt_base hlt] at h
      exact Nat.digitChar_eq_zero.mp (Option.some.inj h)
    · rw [Nat.toDigits_of_base_le (by decide) (Nat.le_of_not_lt hlt),
        List.head?_append_of_ne_nil _ Nat.toDigits_ne_nil] at h
      have := ih (n / 10) (by omega) h
      omega

theorem foldlM_digit? {t : Text} (h : ∀ c ∈ t, c.isDigit = true) (n : Nat) :
    t.foldlM (fun n c => (digit? c).map (10 * n + ·)) n = some (Nat.ofDigitChars 10 t n) := by
  induction t generalizing n with
  | nil => rfl
  | cons c rest ih =>
    have hc := h c List.mem_cons_self
    rw [List.foldlM_cons, digit?, if_pos hc, Nat.ofDigitChars_eq_foldl, List.foldl_cons,
      ← Nat.ofDigitChars_eq_foldl]
    exact ih (fun c hc => h c (List.mem_cons_of_mem _ hc)) _

/-- **A number is read from the digits that write it.** -/
theorem toNat?_ofNat (n : Nat) : toNat? (ofNat n) = some n := by
  have hne : (ofNat n).isEmpty = false := by simp [ofNat, Nat.toDigits_ne_nil]
  rw [toNat?, hne, if_neg Bool.false_ne_true, foldlM_digit? fun c => isDigit_of_mem_ofNat, ofNat,
    Nat.ofDigitChars_ten_toDigits]

end Text

namespace Json

/-! ## 2. What is JSON -/

/-- The blanks between tokens. -/
def IsSpace (t : Text) : Prop := ∀ c ∈ t, c = ' ' ∨ c = '\n' ∨ c = '\t' ∨ c = '\r'

/-- Blanks, a text of some kind, and blanks. -/
def Spaced (P : Text → Prop) (t : Text) : Prop :=
  ∃ before core after, IsSpace before ∧ P core ∧ IsSpace after ∧ t = before ++ core ++ after

/-- Digits, one at least. -/
def IsDigits (t : Text) : Prop := t ≠ [] ∧ ∀ c ∈ t, c.isDigit = true

/-- Digits that start with a zero only if it is the only one. -/
def IsWhole (t : Text) : Prop := IsDigits t ∧ (t.head? = some '0' → t = ['0'])

/-- A point, and digits. -/
def IsFraction (t : Text) : Prop := ∃ digits, IsDigits digits ∧ t = '.' :: digits

/-- The mark of an exponent, and digits that may have a sign. -/
def IsExponent (t : Text) : Prop :=
  ∃ mark sign digits, (mark = 'e' ∨ mark = 'E') ∧ (sign = [] ∨ sign = ['+'] ∨ sign = ['-']) ∧
    IsDigits digits ∧ t = mark :: sign ++ digits

/-- A number. -/
def IsNumber (t : Text) : Prop :=
  ∃ sign whole fraction exponent, (sign = [] ∨ sign = ['-']) ∧ IsWhole whole ∧
    (fraction = [] ∨ IsFraction fraction) ∧ (exponent = [] ∨ IsExponent exponent) ∧
    t = sign ++ (whole ++ (fraction ++ exponent))

/-- The letters that may stand behind a backslash, and what they stand for. -/
def shortEscapes : List (Char × Char) :=
  [('"', '"'), ('\\', '\\'), ('/', '/'), ('b', '\x08'), ('f', '\x0c'), ('n', '\n'), ('r', '\r'),
    ('t', '\t')]

/-- A character that stands for itself inside a string. -/
structure IsPlain (c : Char) : Prop where
  ne_quote : c ≠ '"'
  ne_backslash : c ≠ '\\'
  noControl : ¬ c < ' '

/-- Four hexadecimal digits, in either case, and the number they write. -/
def IsUnit (digits : Text) (unit : Nat) : Prop :=
  digits.length = 4 ∧
    digits.foldlM (fun v c => (Text.hexDigit? c).map (16 * v + ·)) 0 = some unit

/-- A text, and what spells it between quotes. A character may stand for itself or be escaped; one
    that is past 16 bits is escaped as two halves. -/
inductive Spells : Text → Text → Prop
  | nil : Spells [] []
  | plain {c : Char} {text body : Text} (hc : IsPlain c) (h : Spells text body) :
      Spells (c :: text) (c :: body)
  | short {letter c : Char} {text body : Text} (hletter : (letter, c) ∈ shortEscapes)
      (h : Spells text body) : Spells (c :: text) ('\\' :: letter :: body)
  | unit {c : Char} {digits text body : Text} (hdigits : IsUnit digits c.toNat)
      (h : Spells text body) : Spells (c :: text) ('\\' :: 'u' :: digits ++ body)
  | pair {c : Char} {high low : Nat} {highDigits lowDigits text body : Text}
      (hhigh : IsUnit highDigits high) (hlow : IsUnit lowDigits low)
      (hhighRange : 0xD800 ≤ high ∧ high ≤ 0xDBFF) (hlowRange : 0xDC00 ≤ low ∧ low ≤ 0xDFFF)
      (hc : c.toNat = 0x10000 + (high - 0xD800) * 0x400 + (low - 0xDC00)) (h : Spells text body) :
      Spells (c :: text) ('\\' :: 'u' :: highDigits ++ ('\\' :: 'u' :: lowDigits ++ body))

/-- What may stand between the quotes of a string. Its escapes need not make up characters. -/
inductive IsBody : Text → Prop
  | nil : IsBody []
  | plain {c : Char} {body : Text} (hc : IsPlain c) (h : IsBody body) : IsBody (c :: body)
  | short {letter c : Char} {body : Text} (hletter : (letter, c) ∈ shortEscapes)
      (h : IsBody body) : IsBody ('\\' :: letter :: body)
  | unit {digits body : Text} {unit : Nat} (hdigits : IsUnit digits unit) (h : IsBody body) :
      IsBody ('\\' :: 'u' :: digits ++ body)

/-- The string spells the text. -/
def Quotes (text literal : Text) : Prop :=
  ∃ body, Spells text body ∧ literal = '"' :: body ++ ['"']

/-- A string, whatever it spells. -/
def IsString (t : Text) : Prop := ∃ body, IsBody body ∧ t = '"' :: body ++ ['"']

/-- Items with commas between them, inside brackets. The blanks before the last one are of account
    only if there are no items. -/
def enclosed (first last : Char) (items : List Text) (space : Text) : Text :=
  first :: (Text.join [','] items ++ (space ++ [last]))

/-- A value, which may have blanks around it. -/
inductive IsValue : Text → Prop
  | word {t : Text} (h : t ∈ ["true".toList, "false".toList, "null".toList]) : IsValue t
  | number {t : Text} (h : IsNumber t) : IsValue t
  | string {t : Text} (h : IsString t) : IsValue t
  | array {items : List Text} {space : Text} (hitems : ∀ t ∈ items, IsValue t)
      (hspace : IsSpace space) : IsValue (enclosed '[' ']' items space)
  | object {members : List (Text × Text)} {space : Text}
      (hnames : ∀ m ∈ members, Spaced IsString m.1) (hvalues : ∀ m ∈ members, IsValue m.2)
      (hspace : IsSpace space) :
      IsValue (enclosed '{' '}' (members.map fun m => m.1 ++ ':' :: m.2) space)
  | spaced {before t after : Text} (hbefore : IsSpace before) (h : IsValue t)
      (hafter : IsSpace after) : IsValue (before ++ t ++ after)

/-! ## 3. Ends of numbers -/

/-- The text does not go on with a number. -/
def Ends (t : Text) : Prop :=
  ∀ c ∈ t.head?, c.isDigit = false ∧ c ≠ '.' ∧ c ≠ 'e' ∧ c ≠ 'E'

theorem ends_nil : Ends [] := by simp [Ends]

theorem ends_cons {c : Char} {t : Text}
    (h : c ∈ [' ', '\n', '\t', '\r', ',', ':', ']', '}']) : Ends (c :: t) := by
  intro d hd
  obtain rfl := Option.some.inj hd
  simp only [List.mem_cons, List.not_mem_nil, or_false] at h
  rcases h with rfl | rfl | rfl | rfl | rfl | rfl | rfl | rfl <;> decide

theorem Ends.space {space t : Text} (h : Ends t) (hspace : IsSpace space) : Ends (space ++ t) := by
  cases space with
  | nil => exact h
  | cons c rest =>
    refine ends_cons ?_
    rcases hspace c List.mem_cons_self with rfl | rfl | rfl | rfl <;> decide

/-! ## 4. Texts without a token -/

namespace Scanner

variable {s s' s'' : State} {t u : Text}

/-- The text is taken in without a token. -/
def Passes (s : State) (t : Text) (s' : State) : Prop :=
  ∀ rest, scanFrom s (t ++ rest) = scanFrom s' rest

theorem scanFrom_cons (s : State) (c : Char) (rest : Text) :
    scanFrom s (c :: rest) = (step s c).1 ++ scanFrom (step s c).2 rest := rfl

theorem passes_nil (s : State) : Passes s [] s := fun _ => rfl

theorem passes_cons {c : Char} (hstep : step s c = ([], s')) (h : Passes s' t s'') :
    Passes s (c :: t) s'' := by
  intro rest
  rw [List.cons_append, scanFrom_cons, hstep]
  exact h rest

theorem Passes.append (h : Passes s t s') (h' : Passes s' u s'') : Passes s (t ++ u) s'' := by
  intro rest
  rw [List.append_assoc, h, h']

theorem passes_space (h : IsSpace t) : Passes .between t .between := by
  induction t with
  | nil => exact passes_nil _
  | cons c rest ih =>
    refine passes_cons ?_ (ih fun c hc => h c (List.mem_cons_of_mem _ hc))
    rcases h c List.mem_cons_self with rfl | rfl | rfl | rfl <;> rfl

/-! ## 5. Numbers -/

section Number

variable {p : NumberPhase} {n : Numeral} {c : Char}

theorem step_number {later : NumberPhase} {longer : Numeral}
    (h : p.next? n c = some (later, longer)) :
    step (.number p n) c = ([], .number later longer) := by
  rw [step, h]

theorem next?_of_isFinal (hp : p.isFinal = true)
    (hc : c.isDigit = false ∧ c ≠ '.' ∧ c ≠ 'e' ∧ c ≠ 'E') : p.next? n c = none := by
  obtain ⟨hdigit, hpoint, hlower, hupper⟩ := hc
  cases p <;> simp_all [NumberPhase.next?, NumberPhase.isFinal, Text.digit?]

/-- **A number is over with what does not go on with it.** -/
theorem scanFrom_number (hp : p.isFinal = true) {rest : Text} (hrest : Ends rest) :
    scanFrom (.number p n) rest = .number n :: scanFrom .between rest := by
  cases rest with
  | nil => simp [scanFrom, finish, hp]
  | cons c rest =>
    have hc := hrest c rfl
    have hstep : step (.number p n) c = (.number n :: (begin c).1, (begin c).2) := by
      rw [step, next?_of_isFinal hp hc]
      simp [hp, hc.1]
    rw [scanFrom_cons, hstep]
    rfl

theorem passes_whole {digits : Text} (h : ∀ c ∈ digits, c.isDigit = true) (n : Numeral) :
    Passes (.number .whole n) digits (.number .whole { n with whole := n.whole ++ digits }) := by
  induction digits generalizing n with
  | nil => simpa using passes_nil _
  | cons c rest ih =>
    have hc := h c List.mem_cons_self
    have hnext : NumberPhase.next? .whole n c =
        some (.whole, { n with whole := n.whole ++ [c] }) := by
      simp [NumberPhase.next?, Text.digit?, hc]
    refine passes_cons (step_number hnext) ?_
    simpa using ih (fun c hc => h c (List.mem_cons_of_mem _ hc)) { n with whole := n.whole ++ [c] }

/-- A digit does not end a fraction or an exponent. -/
theorem exists_passes_digits (hp : p = .fraction ∨ p = .exponent) {digits : Text}
    (h : ∀ c ∈ digits, c.isDigit = true) (n : Numeral) :
    ∃ longer, Passes (.number p n) digits (.number p longer) := by
  induction digits generalizing n with
  | nil => exact ⟨n, passes_nil _⟩
  | cons c rest ih =>
    have hc := h c List.mem_cons_self
    have hnext : ∃ longer, p.next? n c = some (p, longer) := by
      rcases hp with rfl | rfl <;> simp [NumberPhase.next?, Text.digit?, hc]
    obtain ⟨one, hone⟩ := hnext
    obtain ⟨all, hall⟩ := ih (fun c hc => h c (List.mem_cons_of_mem _ hc)) one
    exact ⟨all, passes_cons (step_number hone) hall⟩

/-- Digits lead where the first of them leads, if that is a fraction or an exponent. -/
theorem exists_passes_isDigits {q : NumberPhase} (hq : q = .fraction ∨ q = .exponent)
    (hfirst : ∀ c : Char, c.isDigit = true → ∃ longer, p.next? n c = some (q, longer))
    {digits : Text} (h : IsDigits digits) :
    ∃ longer, Passes (.number p n) digits (.number q longer) := by
  obtain ⟨hne, hdigits⟩ := h
  cases digits with
  | nil => exact absurd rfl hne
  | cons c rest =>
    obtain ⟨one, hone⟩ := hfirst c (hdigits c List.mem_cons_self)
    obtain ⟨longer, hrest⟩ :=
      exists_passes_digits hq (fun c hc => hdigits c (List.mem_cons_of_mem _ hc)) one
    exact ⟨longer, passes_cons (step_number hone) hrest⟩

/-- The whole part of a number, behind its sign. -/
theorem passes_isWhole {whole : Text} (h : IsWhole whole) (n : Numeral) :
    ∃ p, (p = .zero ∨ p = .whole) ∧
      Passes (.number .sign n) whole (.number p { n with whole := whole }) := by
  obtain ⟨⟨hne, hdigits⟩, hzero⟩ := h
  cases whole with
  | nil => exact absurd rfl hne
  | cons c rest =>
    by_cases hc : c = '0'
    · subst hc
      obtain rfl : rest = [] := (List.cons.inj (hzero rfl)).2
      exact ⟨.zero, .inl rfl, passes_cons (step_number rfl) (passes_nil _)⟩
    · have hdigit := hdigits c List.mem_cons_self
      have hfirst : NumberPhase.next? .sign n c = some (.whole, { n with whole := [c] }) := by
        simp [NumberPhase.next?, Text.digit?, hdigit, hc]
      exact ⟨.whole, .inr rfl, passes_cons (step_number hfirst)
        (passes_whole (fun c hc => hdigits c (List.mem_cons_of_mem _ hc)) _)⟩

theorem exists_passes_fraction (hp : p = .zero ∨ p = .whole) {fraction : Text}
    (h : fraction = [] ∨ IsFraction fraction) (n : Numeral) :
    ∃ later longer, (later = .zero ∨ later = .whole ∨ later = .fraction) ∧
      Passes (.number p n) fraction (.number later longer) := by
  rcases h with rfl | ⟨digits, hdigits, rfl⟩
  · exact ⟨p, n, hp.imp_right .inl, passes_nil _⟩
  have hpoint : p.next? n '.' = some (.point, n) := by rcases hp with rfl | rfl <;> rfl
  have hfirst : ∀ c : Char, c.isDigit = true →
      ∃ longer, NumberPhase.next? .point n c = some (.fraction, longer) := by
    intro c hc
    simp [NumberPhase.next?, Text.digit?, hc]
  obtain ⟨longer, hpasses⟩ := exists_passes_isDigits (.inl rfl) hfirst hdigits
  exact ⟨.fraction, longer, .inr (.inr rfl), passes_cons (step_number hpoint) hpasses⟩

theorem exists_passes_exponentDigits (hp : p = .mark ∨ p = .markSign) {digits : Text}
    (h : IsDigits digits) (n : Numeral) :
    ∃ longer, Passes (.number p n) digits (.number .exponent longer) := by
  refine exists_passes_isDigits (.inr rfl) (fun c hc => ?_) h
  have hplus : c ≠ '+' := by rintro rfl; exact absurd hc (by decide)
  have hminus : c ≠ '-' := by rintro rfl; exact absurd hc (by decide)
  rcases hp with rfl | rfl <;> simp [NumberPhase.next?, Text.digit?, hc, hplus, hminus]

theorem exists_passes_exponent (hp : p = .zero ∨ p = .whole ∨ p = .fraction) {exponent : Text}
    (h : exponent = [] ∨ IsExponent exponent) (n : Numeral) :
    ∃ later longer, later.isFinal = true ∧
      Passes (.number p n) exponent (.number later longer) := by
  rcases h with rfl | ⟨mark, sign, digits, hmark, hsign, hdigits, rfl⟩
  · exact ⟨p, n, by rcases hp with rfl | rfl | rfl <;> rfl, passes_nil _⟩
  have hfirst : p.next? n mark = some (.mark, n) := by
    rcases hp with rfl | rfl | rfl <;> rcases hmark with rfl | rfl <;> rfl
  have hsigned : ∃ q m, (q = .mark ∨ q = .markSign) ∧
      Passes (.number .mark n) sign (.number q m) := by
    rcases hsign with rfl | rfl | rfl
    · exact ⟨.mark, n, .inl rfl, passes_nil _⟩
    · exact ⟨.markSign, _, .inr rfl, passes_cons (step_number rfl) (passes_nil _)⟩
    · exact ⟨.markSign, _, .inr rfl, passes_cons (step_number rfl) (passes_nil _)⟩
  obtain ⟨q, m, hq, hsign⟩ := hsigned
  obtain ⟨longer, hdigits⟩ := exists_passes_exponentDigits hq hdigits m
  exact ⟨.exponent, longer, rfl, (passes_cons (step_number hfirst) hsign).append hdigits⟩

/-- A digit starts a number as it goes on with one that has its sign already. -/
theorem step_between_digit (hc : c.isDigit = true) :
    step .between c = step (.number .sign {}) c := by
  have hnext : ∃ later longer, NumberPhase.next? .sign {} c = some (later, longer) := by
    by_cases hzero : c = '0' <;> simp [NumberPhase.next?, Text.digit?, hc, hzero]
  obtain ⟨later, longer, hnext⟩ := hnext
  rw [step_number hnext, step]
  unfold begin
  split <;> first | exact absurd hc (by decide) | rw [hnext]

theorem passes_between_isWhole {whole : Text} (h : IsWhole whole) :
    ∃ p, (p = .zero ∨ p = .whole) ∧ Passes .between whole (.number p { whole := whole }) := by
  obtain ⟨p, hp, hpasses⟩ := passes_isWhole h {}
  refine ⟨p, hp, fun rest => ?_⟩
  rw [← hpasses rest]
  obtain ⟨⟨hne, hdigits⟩, -⟩ := h
  cases whole with
  | nil => exact absurd rfl hne
  | cons c _ =>
    rw [List.cons_append, scanFrom_cons, scanFrom_cons,
      step_between_digit (hdigits c List.mem_cons_self)]

theorem exists_passes_number {t : Text} (h : IsNumber t) :
    ∃ p n, p.isFinal = true ∧ Passes .between t (.number p n) := by
  obtain ⟨sign, whole, fraction, exponent, hsign, hwhole, hfraction, hexponent, rfl⟩ := h
  have hsigned : ∃ p n, (p = .zero ∨ p = .whole) ∧
      Passes .between (sign ++ whole) (.number p n) := by
    rcases hsign with rfl | rfl
    · obtain ⟨p, hp, hpasses⟩ := passes_between_isWhole hwhole
      exact ⟨p, _, hp, hpasses⟩
    · obtain ⟨p, hp, hpasses⟩ := passes_isWhole hwhole { negative := true }
      exact ⟨p, _, hp, passes_cons rfl hpasses⟩
  obtain ⟨p, n, hp, hsigned⟩ := hsigned
  obtain ⟨q, m, hq, hfraction⟩ := exists_passes_fraction hp hfraction n
  obtain ⟨later, longer, hlater, hexponent⟩ := exists_passes_exponent hq hexponent m
  refine ⟨later, longer, hlater, ?_⟩
  rw [← List.append_assoc]
  exact hsigned.append (hfraction.append hexponent)

end Number

/-! ## 6. Strings -/

section String

variable {r : Reading}

theorem pushUnit_escape (r : Reading) (e : Option Escape) (unit : Nat) :
    Reading.pushUnit { r with escape := e } unit = r.pushUnit unit := by
  obtain ⟨chars, high, sound, escape⟩ := r
  cases high <;> rfl

theorem escape_pushUnit (r : Reading) (unit : Nat) : (r.pushUnit unit).escape = none := by
  unfold Reading.pushUnit
  repeat' split
  all_goals rfl

theorem step_plain {c : Char} (hr : r.escape = none) (hc : IsPlain c) :
    step (.string r) c = ([], .string (r.push c)) := by
  simp [step, hr, hc.ne_quote, hc.ne_backslash, hc.noControl]

theorem step_backslash (hr : r.escape = none) :
    step (.string r) '\\' = ([], .string { r with escape := some .backslash }) := by
  simp [step, hr]

theorem escaped?_of_mem {letter c : Char} (h : (letter, c) ∈ shortEscapes) :
    letter ≠ 'u' ∧ Reading.escaped? letter = some c := by
  have hall : ∀ e ∈ shortEscapes, e.1 ≠ 'u' ∧ Reading.escaped? e.1 = some e.2 := by decide
  exact hall _ h

theorem passes_short {letter c : Char} (hr : r.escape = none)
    (h : (letter, c) ∈ shortEscapes) :
    Passes (.string r) ['\\', letter] (.string (r.push c)) := by
  obtain ⟨hu, hletter⟩ := escaped?_of_mem h
  refine passes_cons (step_backslash hr) (passes_cons ?_ (passes_nil _))
  simp only [step, Reading.inEscape?, if_neg hu, hletter, Option.map_some]
  rfl

/-- The digits that are still due end in what they write. -/
theorem passes_hex {digits : Text} {value unit : Nat} (hne : digits ≠ [])
    (h : digits.foldlM (fun v c => (Text.hexDigit? c).map (16 * v + ·)) value = some unit) :
    Passes (.string { r with escape := some (.hex value digits.length) }) digits
      (.string (r.pushUnit unit)) := by
  induction digits generalizing value with
  | nil => exact absurd rfl hne
  | cons c rest ih =>
    rw [List.foldlM_cons] at h
    cases hc : Text.hexDigit? c with
    | none => simp [hc] at h
    | some d =>
      simp only [hc, Option.map_some, Option.bind_eq_bind, Option.bind_some] at h
      cases rest with
      | nil =>
        obtain rfl : 16 * value + d = unit := Option.some.inj h
        refine passes_cons ?_ (passes_nil _)
        simp [step, Reading.inEscape?, hc, pushUnit_escape]
      | cons c' rest =>
        refine passes_cons ?_ (ih (List.cons_ne_nil _ _) h)
        simp [step, Reading.inEscape?, hc]

theorem passes_unit {digits : Text} {unit : Nat} (hr : r.escape = none) (h : IsUnit digits unit) :
    Passes (.string r) ('\\' :: 'u' :: digits) (.string (r.pushUnit unit)) := by
  obtain ⟨hlength, hunit⟩ := h
  have hne : digits ≠ [] := by rintro rfl; exact absurd hlength (by decide)
  refine passes_cons (step_backslash hr) (passes_cons ?_ (passes_hex hne hunit))
  simp [step, Reading.inEscape?, hlength]

/-- A character is no half of a surrogate pair. -/
theorem pushUnit_toNat (cs : Text) (c : Char) :
    Reading.pushUnit { chars := cs } c.toNat = { chars := c :: cs } := by
  have hvalid : c.toNat < 0xD800 ∨ 0xDFFF < c.toNat := by
    rcases c.valid with h | h
    · exact .inl h
    · exact .inr h.1
  have hhigh : Reading.isHigh c.toNat = false := by
    simp only [Reading.isHigh, Bool.and_eq_false_iff, decide_eq_false_iff_not]
    omega
  have hlow : Reading.isLow c.toNat = false := by
    simp only [Reading.isLow, Bool.and_eq_false_iff, decide_eq_false_iff_not]
    omega
  simp [Reading.pushUnit, hhigh, hlow, Reading.push]

/-- Two halves make up a character. -/
theorem pushUnit_pair (cs : Text) {c : Char} {high low : Nat}
    (hhigh : 0xD800 ≤ high ∧ high ≤ 0xDBFF) (hlow : 0xDC00 ≤ low ∧ low ≤ 0xDFFF)
    (hc : c.toNat = 0x10000 + (high - 0xD800) * 0x400 + (low - 0xDC00)) :
    (Reading.pushUnit { chars := cs } high).pushUnit low = { chars := c :: cs } := by
  have hisHigh : Reading.isHigh high = true := by simp [Reading.isHigh, hhigh]
  have hisLow : Reading.isLow low = true := by simp [Reading.isLow, hlow]
  simp only [Reading.pushUnit, hisHigh, hisLow, if_true, ← hc, Char.ofNat_toNat]

/-- **What spells a text is read as it.** -/
theorem passes_spells {text body : Text} (h : Spells text body) (cs : Text) :
    Passes (.string { chars := cs }) body (.string { chars := text.reverse ++ cs }) := by
  induction h generalizing cs with
  | nil => exact passes_nil _
  | @plain c text body hc _ ih =>
    rw [List.reverse_cons, List.append_assoc]
    exact passes_cons (step_plain rfl hc) (ih _)
  | @short letter c text body hletter _ ih =>
    rw [List.reverse_cons, List.append_assoc]
    exact (passes_short rfl hletter).append (ih _)
  | @unit c digits text body hdigits _ ih =>
    rw [List.reverse_cons, List.append_assoc]
    have hfirst := passes_unit (r := { chars := cs }) rfl hdigits
    rw [pushUnit_toNat] at hfirst
    exact hfirst.append (ih _)
  | @pair c high low highDigits lowDigits text body hhigh hlow hhighRange hlowRange hc _ ih =>
    rw [List.reverse_cons, List.append_assoc]
    have hfirst := passes_unit (r := { chars := cs }) rfl hhigh
    have hsecond := passes_unit (escape_pushUnit { chars := cs } high) hlow
    rw [pushUnit_pair cs hhighRange hlowRange hc] at hsecond
    exact hfirst.append (hsecond.append (ih _))

theorem exists_passes_isBody {body : Text} (h : IsBody body) (hr : r.escape = none) :
    ∃ later : Reading, later.escape = none ∧ Passes (.string r) body (.string later) := by
  induction h generalizing r with
  | nil => exact ⟨r, hr, passes_nil _⟩
  | @plain c body hc _ ih =>
    obtain ⟨later, hlater, hpasses⟩ := ih (r := r.push c) rfl
    exact ⟨later, hlater, passes_cons (step_plain hr hc) hpasses⟩
  | @short letter c body hletter _ ih =>
    obtain ⟨later, hlater, hpasses⟩ := ih (r := r.push c) rfl
    exact ⟨later, hlater, (passes_short hr hletter).append hpasses⟩
  | @unit digits body unit hdigits _ ih =>
    obtain ⟨later, hlater, hpasses⟩ := ih (escape_pushUnit r unit)
    exact ⟨later, hlater, (passes_unit hr hdigits).append hpasses⟩

theorem scanFrom_quote (hr : r.escape = none) (rest : Text) :
    scanFrom (.string r) ('"' :: rest) = .string r.text? :: scanFrom .between rest := by
  simp [scanFrom_cons, step, hr]

end String

end Scanner

/-! ## 7. Tokens -/

open Scanner

variable {t rest : Text}

theorem scan_space (h : IsSpace t) : scan (t ++ rest) = scan rest := passes_space h rest

/-- A character that is a token of its own. -/
theorem scan_cons {c : Char} {token : Token} (h : begin c = ([token], .between)) :
    scan (c :: rest) = token :: scan rest := by
  rw [scan, scanFrom_cons, step, h]
  rfl

theorem scan_word (h : t ∈ ["true".toList, "false".toList, "null".toList]) (rest : Text) :
    ∃ token ∈ [Token.truth true, Token.truth false, Token.null],
      scan (t ++ rest) = token :: scan rest := by
  simp only [List.mem_cons, List.not_mem_nil, or_false] at h
  rcases h with rfl | rfl | rfl
  · exact ⟨.truth true, by decide, rfl⟩
  · exact ⟨.truth false, by decide, rfl⟩
  · exact ⟨.null, by decide, rfl⟩

theorem scan_isNumber (h : IsNumber t) (hrest : Ends rest) :
    ∃ n, scan (t ++ rest) = .number n :: scan rest := by
  obtain ⟨p, n, hp, hpasses⟩ := exists_passes_number h
  exact ⟨n, (hpasses rest).trans (scanFrom_number hp hrest)⟩

/-- **The decimal digits of a number are read as that number.** -/
theorem scan_ofNat (n : Nat) (hrest : Ends rest) :
    scan (Text.ofNat n ++ rest) = .number { whole := Text.ofNat n } :: scan rest := by
  have hwhole : IsWhole (Text.ofNat n) := by
    refine ⟨⟨Nat.toDigits_ne_nil, fun c => Text.isDigit_of_mem_ofNat⟩, fun h => ?_⟩
    rw [Text.eq_zero_of_head?_ofNat h]
    rfl
  obtain ⟨p, hp, hpasses⟩ := passes_between_isWhole hwhole
  exact (hpasses rest).trans (scanFrom_number (by rcases hp with rfl | rfl <;> rfl) hrest)

/-- **A string is read as the text that it spells.** -/
theorem scan_quotes {text : Text} (h : Quotes text t) (rest : Text) :
    scan (t ++ rest) = .string (some text) :: scan rest := by
  obtain ⟨body, hbody, rfl⟩ := h
  have hread := passes_spells hbody [] ('"' :: rest)
  rw [scanFrom_quote rfl] at hread
  rw [List.append_assoc, List.cons_append, scan, scanFrom_cons]
  simpa [step, begin, Reading.text?, scan] using hread

theorem scan_isString (h : IsString t) (rest : Text) :
    ∃ text, scan (t ++ rest) = .string text :: scan rest := by
  obtain ⟨body, hbody, rfl⟩ := h
  obtain ⟨later, hlater, hpasses⟩ := exists_passes_isBody hbody (r := {}) rfl
  have hread := hpasses ('"' :: rest)
  rw [scanFrom_quote hlater] at hread
  rw [List.append_assoc, List.cons_append, scan, scanFrom_cons]
  exact ⟨later.text?, by simpa [step, begin, scan] using hread⟩

/-! ## 8. What is written -/

/-- A control character is escaped with its number in two digits. -/
theorem isUnit_control : ∀ n < 32, IsUnit ['0', '0', hexDigit (n / 16), hexDigit (n % 16)] n := by
  unfold IsUnit
  decide

theorem spells_escape_cons (c : Char) {text body : Text} (h : Spells text body) :
    Spells (c :: text) (escape c ++ body) := by
  unfold escape
  split
  case h_8 hquote hslash _ _ _ _ _ =>
    split
    · next hcontrol => exact .unit (isUnit_control c.toNat hcontrol) h
    · next hcontrol => exact .plain ⟨hquote, hslash, hcontrol⟩ h
  all_goals exact .short (by decide) h

theorem spells_escape (text : Text) : Spells text (text.flatMap escape) := by
  induction text with
  | nil => exact .nil
  | cons c rest ih => exact spells_escape_cons c ih

/-- **A text spells itself as it is written.** -/
theorem quotes_quote (text : Text) : Quotes text (quote text) := ⟨_, spells_escape text, rfl⟩

theorem isSpace_nil : IsSpace [] := by simp [IsSpace]

theorem Spaced.of {P : Text → Prop} (h : P t) : Spaced P t :=
  ⟨[], t, [], isSpace_nil, h, isSpace_nil, by simp⟩

theorem enclosed_append (first last : Char) (items : List Text) (space rest : Text) :
    enclosed first last items space ++ rest =
      first :: (Text.join [','] items ++ (space ++ last :: rest)) := by
  simp [enclosed]

theorem array_eq (items : List Text) : array items = enclosed '[' ']' items [] := by
  simp [array, enclosed]

theorem object_eq (fields : List (Text × Text)) : object fields =
    enclosed '{' '}' (fields.map fun (name, value) => quote name ++ ':' :: value) [] := by
  simp [object, enclosed]

end Json

end RequestFilter
