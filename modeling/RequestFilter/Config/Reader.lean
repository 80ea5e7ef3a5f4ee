import RequestFilter.Config
import RequestFilter.Files.FileTree
import RequestFilter.Json.Token

/-!
# Reading a configuration

A configuration file holds a JSON object with some of the fields, or an array of the first few field
values. The tokens are taken in one by one, so of several faults the first one counts.

* `Config.Fault` tells a text that is no JSON from a value that does not fit its field;
* `Config.Given` are the fields that a file gave;
* `Config.Reader.step` takes in a token, `Config.read` a text, `Config.ofFile` a file.
-/

namespace RequestFilter

namespace Config

/-! ## 1. Faults and fields -/

/-- What is wrong with the text of a configuration: it is not well-formed, or something in it has the
    wrong type or range or comes twice. -/
inductive Fault where
  | malformed
  | unsuitable
  deriving Repr, DecidableEq

/-- The fields that were given. -/
structure Given where
  dataDir : Option Path := none
  freshnessSecs : Option UInt64 := none
  defaultFilters : Option (List Text) := none
  maxLineLen : Option UInt64 := none
  deriving Repr, DecidableEq

namespace Given

/-- The field was given. -/
def has (g : Given) : Field → Bool
  | .dataDir => g.dataDir.isSome
  | .freshnessSecs => g.freshnessSecs.isSome
  | .defaultFilters => g.defaultFilters.isSome
  | .maxLineLen => g.maxLineLen.isSome

/-- The configuration with the given fields; the others are those of `rest`. -/
def onto (g : Given) (rest : Config) : Config where
  dataDir := g.dataDir.getD rest.dataDir
  freshnessSecs := g.freshnessSecs.getD rest.freshnessSecs
  defaultFilters := g.defaultFilters.getD rest.defaultFilters
  maxLineLen := g.maxLineLen.getD rest.maxLineLen

end Given

namespace Reader

open Json (Token)

/-! ## 2. States -/

/-- The two forms of a file: an object, or an array with values due for the remaining fields. -/
inductive Form where
  | object
  | array (due : List Field)
  deriving Repr, DecidableEq

/-- What may come next between the items of a list: anything or the end, a comma or the end, or an
    item that a comma announced. -/
inductive Due where
  | first
  | separator
  | item
  deriving Repr, DecidableEq

/-- An object or an array inside a value that is passed over. -/
inductive Bracket where
  | brace
  | bracket
  deriving Repr, DecidableEq

/-- The token that closes a bracket. -/
def Bracket.close : Bracket → Token
  | .brace => .closeBrace
  | .bracket => .closeBracket

/-- Where a value that is passed over stands: between the items of its innermost bracket, behind a
    key, or behind the colon. -/
inductive Skipping where
  | items (due : Due)
  | colon
  | value
  deriving Repr, DecidableEq

/-- What was read, and what may follow. -/
inductive State where
  | start
  | fields (form : Form) (given : Given) (due : Due)
  | colon (given : Given) (field : Option Field)
  | value (given : Given) (field : Option Field)
  | texts (form : Form) (given : Given) (sofar : List Text) (due : Due)
  | skipped (given : Given) (stack : List Bracket) (place : Skipping)
  | done (given : Given)
  deriving Repr, DecidableEq

/-! ## 3. Steps -/

/-- The fault of a token that stands where a value of another type is due. A number that is out of
    every range, or a string without a text, is no value at all. -/
def mismatch : Token → Fault
  | .number n => if n.overflows then .malformed else .unsuitable
  | .string none | .broken | .comma | .colon | .closeBrace | .closeBracket => .malformed
  | .string (some _) | .truth _ | .null | .openBrace | .openBracket => .unsuitable

/-- A whole number of 64 bits. -/
def word? (n : Json.Numeral) : Option UInt64 :=
  n.toNat?.bind fun v => if v < UInt64.size then some (UInt64.ofNat v) else none

/-- The first token of the value of a field. -/
def fieldValue (form : Form) (g : Given) (field : Field) (token : Token) : Except Fault State :=
  let whole (set : UInt64 → Given) : Except Fault State :=
    match token with
    | .number n =>
      match word? n with
      | some w => .ok (.fields form (set w) .separator)
      | none => .error (mismatch token)
    | _ => .error (mismatch token)
  match field with
  | .dataDir =>
    match token with
    | .string (some t) => .ok (.fields form { g with dataDir := some t } .separator)
    | _ => .error (mismatch token)
  | .freshnessSecs => whole fun w => { g with freshnessSecs := some w }
  | .defaultFilters =>
    match token with
    | .openBracket => .ok (.texts form g [] .first)
    | _ => .error (mismatch token)
  | .maxLineLen => whole fun w => { g with maxLineLen := some w }

/-- Behind a value that is passed over. -/
def afterSkipped (g : Given) : List Bracket → State
  | [] => .fields .object g .separator
  | stack => .skipped g stack (.items .separator)

/-- The first token of a value that is passed over. -/
def skipValue (g : Given) (stack : List Bracket) : Token → Except Fault State
  | .truth _ | .null | .number _ | .string _ => .ok (afterSkipped g stack)
  | .openBrace => .ok (.skipped g (.brace :: stack) (.items .first))
  | .openBracket => .ok (.skipped g (.bracket :: stack) (.items .first))
  | .closeBrace | .closeBracket | .comma | .colon | .broken => .error .malformed

/-- A token inside a value that is passed over. -/
def skip (g : Given) (stack : List Bracket) (place : Skipping) (token : Token) :
    Except Fault State :=
  match place, stack with
  | _, [] => .error .malformed
  | .colon, _ => if token = .colon then .ok (.skipped g stack .value) else .error .malformed
  | .value, _ => skipValue g stack token
  | .items due, inner :: outer =>
    if due ≠ .item ∧ token = inner.close then .ok (afterSkipped g outer)
    else if due = .separator then
      if token = .comma then .ok (.skipped g stack (.items .item)) else .error .malformed
    else match inner with
      | .bracket => skipValue g stack token
      | .brace =>
        match token with
        | .string _ => .ok (.skipped g stack .colon)
        | _ => .error .malformed

/-- A token between the fields of an object. A field that comes twice is noticed at its name. -/
def objectField (g : Given) (due : Due) (token : Token) : Except Fault State :=
  match due, token with
  | .first, .closeBrace | .separator, .closeBrace => .ok (.done g)
  | .separator, .comma => .ok (.fields .object g .item)
  | .first, .string (some name) | .item, .string (some name) =>
    let field := Field.ofName? name
    if field.any g.has then .error .unsuitable else .ok (.colon g field)
  | _, _ => .error .malformed

/-- A token between the values of an array. -/
def arrayItem (fields : List Field) (g : Given) (due : Due) (token : Token) :
    Except Fault State :=
  match due, token with
  | .first, .closeBracket | .separator, .closeBracket => .ok (.done g)
  | .separator, .comma =>
    if fields.isEmpty then .error .malformed else .ok (.fields (.array fields) g .item)
  | .separator, _ => .error .malformed
  | _, _ =>
    match fields with
    | [] => .error .malformed
    | field :: rest => fieldValue (.array rest) g field token

/-- A token inside the list of subscriptions. -/
def textItem (form : Form) (g : Given) (sofar : List Text) (due : Due) (token : Token) :
    Except Fault State :=
  match due, token with
  | .first, .closeBracket | .separator, .closeBracket =>
    .ok (.fields form { g with defaultFilters := some sofar } .separator)
  | .separator, .comma => .ok (.texts form g sofar .item)
  | .separator, _ => .error .malformed
  | _, .string (some t) => .ok (.texts form g (sofar ++ [t]) .separator)
  | _, _ => .error (mismatch token)

/-- One token. -/
def step (s : State) (token : Token) : Except Fault State :=
  match s with
  | .start =>
    match token with
    | .openBrace => .ok (.fields .object {} .first)
    | .openBracket => .ok (.fields (.array Field.all) {} .first)
    | _ => .error (mismatch token)
  | .fields .object g due => objectField g due token
  | .fields (.array fields) g due => arrayItem fields g due token
  | .colon g field => if token = .colon then .ok (.value g field) else .error .malformed
  | .value g (some field) => fieldValue .object g field token
  | .value g none => skipValue g [] token
  | .texts form g sofar due => textItem form g sofar due token
  | .skipped g stack place => skip g stack place token
  | .done _ => .error .malformed

/-- The fields that a list of tokens gives. -/
def given (tokens : List Token) : Except Fault Given :=
  match tokens.foldlM step .start with
  | .ok (.done g) => .ok g
  | .ok _ => .error .malformed
  | .error e => .error e

end Reader

/-! ## 4. Texts and files -/

/-- The configuration that a text writes; fields that it leaves out are those of `rest`. -/
def read (rest : Config) (t : Text) : Except Fault Config :=
  (Reader.given (Json.scan t)).map (·.onto rest)

end Config

/-! ## 5. Errors -/

/-- Why an operation with files and configurations failed, and on which path. -/
inductive TesterError where
  | io (path : Path) (cause : FileError)
  | config (path : Path) (cause : Config.Fault)
  deriving Repr, DecidableEq

/-- The words for an error. For a configuration they stop behind the quoted path. -/
def TesterError.message : TesterError → Text
  | .io path cause => "I/O error on '".toList ++ path ++ "': ".toList ++ cause.message
  | .config path _ => "invalid config '".toList ++ path ++ "'".toList

/-- The configuration that the file at a path writes. -/
def Config.ofFile (rest : Config) (files : FileTree) (path : Path) : Except TesterError Config :=
  match files.readText path with
  | .error e => .error (.io path e)
  | .ok text =>
    match Config.read rest text with
    | .error e => .error (.config path e)
    | .ok config => .ok config

end RequestFilter
