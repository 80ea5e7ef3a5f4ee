import RequestFilter.Text.Basic

/-!
# JSON tokens

A JSON text is read from left to right, one character at a time, into tokens. What order the tokens
may stand in is left to their reader.

* `Json.Token` is a token, `Json.Numeral` the digits of a number;
* `Json.Scanner.step` takes in one character, `Json.scan` a whole text;
* a text that is no sequence of tokens gives those before the fault and then `Token.broken`.

A string is cut into tokens even if its escapes do not make up characters, because a reader that
passes over the string need not care.
-/

namespace RequestFilter

namespace Json

/-! ## 1. Tokens -/

/-- A number as it is written: the digits before and behind the point, and the exponent. -/
structure Numeral where
  negative : Bool := false
  whole : Text := []
  fraction : Text := []
  exponent : Option Nat := none
  exponentNegative : Bool := false
  deriving Repr, DecidableEq

/-- A token. A string whose escapes leave half a surrogate pair alone has no text. -/
inductive Token where
  | openBrace
  | closeBrace
  | openBracket
  | closeBracket
  | comma
  | colon
  | truth (b : Bool)
  | null
  | number (n : Numeral)
  | string (t : Option Text)
  | broken
  deriving Repr, DecidableEq

namespace Numeral

/-- The number, if it is written with digits alone. -/
def toNat? (n : Numeral) : Option Nat :=
  if n.negative || !n.fraction.isEmpty || n.exponent.isSome then none else Text.toNat? n.whole

/-- The least magnitude that rounds to more than every finite number of double precision. -/
def overflowBound : Nat := Nat.pow 2 1024 - Nat.pow 2 970

/-- The magnitude is too great for double precision. Only a number of 309 digits before its point
    has to be looked at closely. -/
def overflows (n : Numeral) : Bool :=
  let digits := (n.whole ++ n.fraction).dropWhile (· = '0')
  let exponent : Int := if n.exponentNegative then -(n.exponent.getD 0) else n.exponent.getD 0
  let shift : Int := exponent - n.fraction.length
  let size : Int := digits.length + shift
  let value := (Text.toNat? digits).getD 0
  if digits.isEmpty || size < 309 then false
  else if 309 < size then true
  else if 0 ≤ shift then decide (overflowBound ≤ value * Nat.pow 10 shift.toNat)
  else decide (overflowBound * Nat.pow 10 (-shift).toNat ≤ value)

end Numeral

namespace Scanner

/-! ## 2. Numbers -/

/-- How far a number has been read. -/
inductive NumberPhase where
  | sign
  | zero
  | whole
  | point
  | fraction
  | mark
  | markSign
  | exponent
  deriving Repr, DecidableEq

namespace NumberPhase

/-- The number may end here. -/
def isFinal : NumberPhase → Bool
  | zero | whole | fraction | exponent => true
  | sign | point | mark | markSign => false

/-- The number read on by one character; none if the character does not belong to it. -/
def next? (p : NumberPhase) (n : Numeral) (c : Char) : Option (NumberPhase × Numeral) :=
  let digit := Text.digit? c
  let isMark := c = 'e' || c = 'E'
  let withExponent (d : Nat) : NumberPhase × Numeral :=
    (exponent, { n with exponent := some (10 * n.exponent.getD 0 + d) })
  match p with
  | sign =>
    if c = '0' then some (zero, { n with whole := ['0'] })
    else if digit.isSome then some (whole, { n with whole := [c] })
    else none
  | zero => if c = '.' then some (point, n) else if isMark then some (mark, n) else none
  | whole =>
    if digit.isSome then some (whole, { n with whole := n.whole ++ [c] })
    else if c = '.' then some (point, n)
    else if isMark then some (mark, n)
    else none
  | point => if digit.isSome then some (fraction, { n with fraction := [c] }) else none
  | fraction =>
    if digit.isSome then some (fraction, { n with fraction := n.fraction ++ [c] })
    else if isMark then some (mark, n)
    else none
  | mark =>
    if c = '+' then some (markSign, n)
    else if c = '-' then some (markSign, { n with exponentNegative := true })
    else digit.map withExponent
  | markSign => digit.map withExponent
  | exponent => digit.map withExponent

end NumberPhase

/-! ## 3. Strings -/

/-- Inside an escape: behind its backslash, or with so many hexadecimal digits still due. -/
inductive Escape where
  | backslash
  | hex (value due : Nat)
  deriving Repr, DecidableEq

/-- A string being read: its characters, last one first, the first half of a surrogate pair that
    waits for its second, and whether every half so far found the other. -/
structure Reading where
  chars : Text := []
  high : Option Nat := none
  sound : Bool := true
  escape : Option Escape := none
  deriving Repr, DecidableEq

namespace Reading

/-- Adds a character. -/
def push (r : Reading) (c : Char) : Reading :=
  { chars := c :: r.chars, high := none, sound := r.sound && r.high.isNone, escape := none }

/-- The number is the second half of a surrogate pair. -/
def isLow (unit : Nat) : Bool := 0xDC00 ≤ unit && unit ≤ 0xDFFF

/-- The number is the first half of a surrogate pair. -/
def isHigh (unit : Nat) : Bool := 0xD800 ≤ unit && unit ≤ 0xDBFF

/-- Adds what four hexadecimal digits stand for: a character or half a surrogate pair. -/
def pushUnit (r : Reading) (unit : Nat) : Reading :=
  match r.high with
  | some high =>
    if isLow unit then
      { r with chars := Char.ofNat (0x10000 + (high - 0xD800) * 0x400 + (unit - 0xDC00)) :: r.chars
               high := none
               escape := none }
    else { r with high := none, sound := false, escape := none }
  | none =>
    if isHigh unit then { r with high := some unit, escape := none }
    else if isLow unit then { r with sound := false, escape := none }
    else r.push (Char.ofNat unit)

/-- The text that was read, if every half of a surrogate pair found the other. -/
def text? (r : Reading) : Option Text :=
  if r.sound && r.high.isNone then some r.chars.reverse else none

/-- The character that a letter behind a backslash stands for. -/
def escaped? : Char → Option Char
  | '"' => some '"'
  | '\\' => some '\\'
  | '/' => some '/'
  | 'b' => some '\x08'
  | 'f' => some '\x0c'
  | 'n' => some '\n'
  | 'r' => some '\r'
  | 't' => some '\t'
  | _ => none

/-- The string read on inside an escape. -/
def inEscape? (r : Reading) (e : Escape) (c : Char) : Option Reading :=
  match e with
  | .backslash =>
    if c = 'u' then some { r with escape := some (.hex 0 4) } else (escaped? c).map r.push
  | .hex value due =>
    (Text.hexDigit? c).map fun d =>
      if due ≤ 1 then r.pushUnit (16 * value + d)
      else { r with escape := some (.hex (16 * value + d) (due - 1)) }

end Reading

/-! ## 4. Steps -/

/-- What is being read. -/
inductive State where
  | between
  | word (due : Text) (token : Token)
  | number (phase : NumberPhase) (n : Numeral)
  | string (r : Reading)
  | stopped
  deriving Repr, DecidableEq

/-- Nothing is read past a fault. -/
def fault : List Token × State := ([.broken], .stopped)

/-- A character between tokens. -/
def begin (c : Char) : List Token × State :=
  match c with
  | ' ' | '\n' | '\t' | '\r' => ([], .between)
  | '{' => ([.openBrace], .between)
  | '}' => ([.closeBrace], .between)
  | '[' => ([.openBracket], .between)
  | ']' => ([.closeBracket], .between)
  | ',' => ([.comma], .between)
  | ':' => ([.colon], .between)
  | '"' => ([], .string {})
  | 't' => ([], .word "rue".toList (.truth true))
  | 'f' => ([], .word "alse".toList (.truth false))
  | 'n' => ([], .word "ull".toList .null)
  | '-' => ([], .number .sign { negative := true })
  | _ =>
    match NumberPhase.next? .sign {} c with
    | some (phase, n) => ([], .number phase n)
    | none => fault

/-- One character: the tokens that it completes, and what is being read after it. -/
def step (s : State) (c : Char) : List Token × State :=
  match s with
  | .between => begin c
  | .word due token =>
    match due with
    | [] => fault
    | [last] => if c = last then ([token], .between) else fault
    | next :: rest => if c = next then ([], .word rest token) else fault
  | .number phase n =>
    match phase.next? n c with
    | some (later, longer) => ([], .number later longer)
    | none =>
      if !phase.isFinal || (phase == .zero && c.isDigit) then fault
      else
        let (tokens, next) := begin c
        (.number n :: tokens, next)
  | .string r =>
    match r.escape with
    | some e =>
      match r.inEscape? e c with
      | some next => ([], .string next)
      | none => fault
    | none =>
      if c = '"' then ([.string r.text?], .between)
      else if c = '\\' then ([], .string { r with escape := some .backslash })
      else if c < ' ' then fault
      else ([], .string (r.push c))
  | .stopped => ([], .stopped)

/-- What the end of the text completes. -/
def finish : State → List Token
  | .between | .stopped => []
  | .number phase n => if phase.isFinal then [.number n] else [.broken]
  | .word _ _ | .string _ => [.broken]

/-- The tokens of the characters to come. -/
def scanFrom (s : State) : Text → List Token
  | [] => finish s
  | c :: rest =>
    let (tokens, next) := step s c
    tokens ++ scanFrom next rest

end Scanner

/-- The tokens of a text. -/
def scan (t : Text) : List Token := Scanner.scanFrom .between t

end Json

end RequestFilter
