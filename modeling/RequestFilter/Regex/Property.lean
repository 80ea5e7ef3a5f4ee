import RequestFilter.Regex.CharSet
import RequestFilter.Unicode.Category
import RequestFilter.Unicode.Property
import RequestFilter.Unicode.Script

/-!
# Sets of characters by property

The sets that a regular expression calls by a Unicode name.

* `CharSet.ofCategory?`, `CharSet.ofScript?` and `CharSet.ofProperty?` know the names of each kind;
* `CharSet.ofName?` takes a name of any kind, `CharSet.ofValue?` a kind and a name of it, and
  `CharSet.ofQuery?` whichever of the two is written.
-/

namespace RequestFilter

namespace CharSet

/-! ## 1. Categories and scripts -/

/-- The characters of the categories with the given short names. -/
def categories (shortNames : List String) : CharSet := .ranges (Unicode.categoryRanges shortNames)

/-- The characters that have a meaning. -/
def assigned : CharSet := .ranges Unicode.assignedRanges

/-- The set of a general category, of a union of categories, or of one of the three sets that are
    named in their place. -/
def ofCategory? (key : Text) : Option CharSet :=
  let is := (Unicode.hasName · key)
  if is ["Any"] then some .any
  else if is ["ASCII"] then some (.ranges [(0x0, 0x7F)])
  else if is ["Assigned"] then some assigned
  else if is ["Cn", "Unassigned"] then some (.complement assigned)
  else if is ["C", "Other"] then
    some (.union (categories ["Cc", "Cf", "Co"]) (.complement assigned))
  else match Unicode.NamedSet.find? Unicode.categories key with
    | some rs => some (.ranges rs)
    | none => (Unicode.categoryGroups.find? fun (names, _) => is names).map fun (_, members) =>
      categories members

/-- The characters of a script. -/
def ofScript? (key : Text) : Option CharSet :=
  (Unicode.NamedSet.find? Unicode.scripts key).map .ranges

/-! ## 2. Properties -/

/-- The characters with a listed property; none if there is no such property. -/
def listed (name : String) : CharSet :=
  .ranges ((Unicode.NamedSet.find? Unicode.properties (Unicode.looseName name.toList)).getD [])

/-- What the syntax of patterns takes away from identifiers. -/
def patternSigns : CharSet := .union (listed "Pattern_Syntax") (listed "Pattern_White_Space")

/-- The characters an identifier can start with. -/
def identifierStart : CharSet :=
  difference (.union (categories ["Lu", "Ll", "Lt", "Lm", "Lo", "Nl"]) (listed "Other_ID_Start"))
    patternSigns

/-- The characters an identifier can go on with. -/
def identifierContinue : CharSet :=
  .union identifierStart (difference
    (.union (categories ["Mn", "Mc", "Nd", "Pc"]) (listed "Other_ID_Continue")) patternSigns)

/-- Identifier characters whose compatibility form is none, wherever they stand. -/
def unstable : CharSet :=
  .ranges [(0x37A, 0x37A), (0x309B, 0x309C), (0xFC5E, 0xFC63), (0xFDFA, 0xFDFB), (0xFE70, 0xFE70),
    (0xFE72, 0xFE72), (0xFE74, 0xFE74), (0xFE76, 0xFE76), (0xFE78, 0xFE78), (0xFE7A, 0xFE7A),
    (0xFE7C, 0xFE7C), (0xFE7E, 0xFE7E)]

/-- Identifier characters whose compatibility form cannot stand first. -/
def unstableAtStart : CharSet :=
  .ranges [(0xE33, 0xE33), (0xEB3, 0xEB3), (0xFF9E, 0xFF9F)]

/-- Small letters, and what is used as such. -/
def lowercase : CharSet := .union (categories ["Ll"]) (listed "Other_Lowercase")

/-- Capital letters, and what is used as such. -/
def uppercase : CharSet := .union (categories ["Lu"]) (listed "Other_Uppercase")

/-- What extends the character before it. -/
def graphemeExtend : CharSet := .union (categories ["Mn", "Me"]) (listed "Other_Grapheme_Extend")

/-- The signs that a change of case passes over, besides some categories. -/
def caseIgnorableSigns : CharSet :=
  .ranges [(0x27, 0x27), (0x2E, 0x2E), (0x3A, 0x3A), (0xB7, 0xB7), (0x387, 0x387), (0x55F, 0x55F),
    (0x5F4, 0x5F4), (0x2018, 0x2019), (0x2024, 0x2024), (0x2027, 0x2027), (0xFE13, 0xFE13),
    (0xFE52, 0xFE52), (0xFE55, 0xFE55), (0xFF07, 0xFF07), (0xFF0E, 0xFF0E), (0xFF1A, 0xFF1A)]

/-- The characters with a property. -/
def ofProperty? (key : Text) : Option CharSet :=
  let is := (Unicode.hasName · key)
  if is ["Alpha", "Alphabetic"] then
    some (.union (categories ["Lu", "Ll", "Lt", "Lm", "Lo", "Nl"]) (listed "Other_Alphabetic"))
  else if is ["Lower", "Lowercase"] then some lowercase
  else if is ["Upper", "Uppercase"] then some uppercase
  else if is ["Cased"] then some (.union (categories ["Lt"]) (.union lowercase uppercase))
  else if is ["CI", "Case_Ignorable"] then
    some (.union (categories ["Mn", "Me", "Cf", "Lm", "Sk"]) caseIgnorableSigns)
  else if is ["Gr_Ext", "Grapheme_Extend"] then some graphemeExtend
  else if is ["Gr_Base", "Grapheme_Base"] then
    some (difference assigned (.union graphemeExtend (categories ["Cc", "Cf", "Co", "Zl", "Zp"])))
  else if is ["IDS", "ID_Start"] then some identifierStart
  else if is ["IDC", "ID_Continue"] then some identifierContinue
  else if is ["XIDS", "XID_Start"] then
    some (difference identifierStart (.union unstable unstableAtStart))
  else if is ["XIDC", "XID_Continue"] then some (difference identifierContinue unstable)
  else (Unicode.NamedSet.find? Unicode.properties key).map .ranges

/-! ## 3. Queries -/

/-- The set with a name: a property, a category or a script. -/
def ofName? (name : Text) : Option CharSet :=
  let key := Unicode.looseName name
  (ofProperty? key).orElse fun _ => (ofCategory? key).orElse fun _ => ofScript? key

/-- The characters that have a value for a property of many values. -/
def ofValue? (property value : Text) : Option CharSet :=
  let kind := Unicode.looseName property
  if Unicode.hasName ["gc", "General_Category"] kind then ofCategory? (Unicode.looseName value)
  else if Unicode.hasName ["sc", "Script"] kind then ofScript? (Unicode.looseName value)
  else none

/-- The set a text between braces asks for: a name, or a property and its value with `!=`, `:` or
    `=` between them. The sign in between does not matter. -/
def ofQuery? (query : Text) : Option CharSet :=
  match ["!=", ":", "="].findSome? fun sign => Text.splitOnce sign.toList query with
  | some (property, value) => ofValue? property value
  | none => ofName? query

end CharSet

end RequestFilter
