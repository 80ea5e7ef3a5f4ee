import RequestFilter.Text.Basic

/-!
# Writing JSON

Values are written without blanks, fields in the order they are given in.

* `Json.quote` writes a string;
* `Json.array` and `Json.object` put written values together.
-/

namespace RequestFilter

namespace Json

/-- A hexadecimal digit, in lower case. -/
def hexDigit (n : Nat) : Char :=
  if n < 10 then Char.ofNat ('0'.toNat + n) else Char.ofNat ('a'.toNat + (n - 10))

/-- A character inside a string. Only quotes, backslashes and control characters are escaped. -/
def escape (c : Char) : Text :=
  match c with
  | '"' => ['\\', '"']
  | '\\' => ['\\', '\\']
  | '\x08' => ['\\', 'b']
  | '\x0c' => ['\\', 'f']
  | '\n' => ['\\', 'n']
  | '\r' => ['\\', 'r']
  | '\t' => ['\\', 't']
  | _ =>
    if c < ' ' then ['\\', 'u', '0', '0', hexDigit (c.toNat / 16), hexDigit (c.toNat % 16)]
    else [c]

/-- A string. -/
def quote (t : Text) : Text := '"' :: t.flatMap escape ++ ['"']

/-- An array of written values. -/
def array (items : List Text) : Text := '[' :: Text.join [','] items ++ [']']

/-- An object of written values. -/
def object (fields : List (Text × Text)) : Text :=
  '{' :: Text.join [','] (fields.map fun (name, value) => quote name ++ ':' :: value) ++ ['}']

end Json

end RequestFilter
