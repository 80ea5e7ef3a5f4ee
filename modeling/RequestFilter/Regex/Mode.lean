import RequestFilter.Regex.Basic

/-!
# Modes of a regular expression

The switches an expression can turn on and off for itself, and the reading of text under the one
that makes blanks and comments meaningless.

* `Mode` holds the switches, and `Mode.switch?` reads a list such as `i-su`;
* `Mode.skipBlanks` and `Mode.untilBrace` read ahead in the way the mode asks for;
* `Mode.literal`, `Mode.anyChar`, `Mode.lineStart` and `Mode.lineEnd` are what the plain signs
  mean under a mode.

Without `unicode` an expression may speak about ASCII only: whatever could match part of a
character, such as a negated class, is refused.
-/

namespace RequestFilter

/-- The switches, in their initial position. -/
structure Mode where
  caseless : Bool := false
  multiLine : Bool := false
  dotMatchesNewline : Bool := false
  crlf : Bool := false
  ignoreBlanks : Bool := false
  unicode : Bool := true
  deriving Repr, DecidableEq

namespace Mode

/-! ## 1. Switches -/

/-- Sets the switch a letter names. The letter `U` turns laziness around, which no match depends
    on. -/
def set? (mode : Mode) (on : Bool) : Char → Option Mode
  | 'i' => some { mode with caseless := on }
  | 'm' => some { mode with multiLine := on }
  | 's' => some { mode with dotMatchesNewline := on }
  | 'R' => some { mode with crlf := on }
  | 'x' => some { mode with ignoreBlanks := on }
  | 'u' => some { mode with unicode := on }
  | 'U' => some mode
  | _ => none

/-- Sets the switches of a list of letters. -/
def setAll? (mode : Mode) (on : Bool) (letters : Text) : Option Mode :=
  letters.foldlM (fun m c => m.set? on c) mode

/-- Reads a list of switches: letters to turn on, then perhaps `-` and letters to turn off. No
    letter occurs twice, and the minus sign neither occurs twice nor stands last. -/
def switch? (mode : Mode) (switches : Text) : Option Mode :=
  if ¬ switches.Nodup ∨ switches.getLast? = some '-' then none
  else match Text.splitOnce ['-'] switches with
    | none => mode.setAll? true switches
    | some (on, off) => (mode.setAll? true on).bind (·.setAll? false off)

/-! ## 2. Reading ahead -/

/-- The text without the blanks and comments it starts with; a comment runs from `#` to the end of
    the line. -/
def dropBlanks : Bool → Text → Text
  | _, [] => []
  | true, c :: rest => dropBlanks (c != '\n') rest
  | false, c :: rest =>
    if c = '#' then dropBlanks true rest
    else if Unicode.isBlank c then dropBlanks false rest
    else c :: rest

/-- Drops blanks and comments if they are meaningless. -/
def skipBlanks (mode : Mode) (t : Text) : Text :=
  if mode.ignoreBlanks then dropBlanks false t else t

/-- The text up to the next closing brace and the text behind it. Meaningless blanks and comments
    are left out. -/
def untilBrace (mode : Mode) (comment : Bool) : Text → Option (Text × Text)
  | [] => none
  | c :: rest =>
    if comment then untilBrace mode (c != '\n') rest
    else if mode.ignoreBlanks && c == '#' then untilBrace mode true rest
    else if mode.ignoreBlanks && Unicode.isBlank c then untilBrace mode false rest
    else if c = '\x7d' then some ([], rest)
    else (untilBrace mode false rest).map fun (content, after) => (c :: content, after)

/-! ## 3. Plain signs -/

/-- A set with its case variants, if case is meaningless. -/
def withCaseVariants (mode : Mode) (set : CharSet) : CharSet :=
  if mode.caseless then
    if mode.unicode then .caseless set else .asciiCaseless set
  else set

/-- The complement of a set, which only a Unicode mode has. -/
def negate? (mode : Mode) (negated : Bool) (set : CharSet) : Option CharSet :=
  if negated && !mode.unicode then none else some (.negateIf negated set)

/-- The expression for one character that stands for itself. -/
def literal (mode : Mode) (c : Char) : Regex := .chars (mode.withCaseVariants (.single c))

/-- The expression for the dot. -/
def anyChar? (mode : Mode) : Option Regex :=
  if !mode.unicode then none
  else if mode.dotMatchesNewline then some (.chars .any)
  else if mode.crlf then some (.chars (.complement (.ranges [(0xA, 0xA), (0xD, 0xD)])))
  else some (.chars (.complement (.single '\n')))

/-- The condition for `^`. -/
def lineStart (mode : Mode) : Look :=
  if mode.multiLine then if mode.crlf then .crlfLineStart else .lineStart else .textStart

/-- The condition for `$`. -/
def lineEnd (mode : Mode) : Look :=
  if mode.multiLine then if mode.crlf then .crlfLineEnd else .lineEnd else .textEnd

end Mode

end RequestFilter
