import RequestFilter.Text.Basic

/-!
# Globs

Filter lists write URL patterns as globs. A glob becomes a regular expression character by
character, and a request URL goes through the same transliteration before it is cut into
signatures, so that the signatures of both line up.

* `Glob.image` is the image of one character;
* `Glob.transliterate` puts an anchor in front, drops one `*` at the start and one `.*` at the end.
-/

namespace RequestFilter

namespace Glob

/-- A wildcard becomes `.*`, a question mark stands for itself, the separator marks `|`, `^` and
    `+` vanish, and every other character is copied, even one that a regular expression gives a
    meaning to. -/
def image : Char → Text
  | '*' => ['.', '*']
  | '?' => ['\\', '?']
  | '|' | '^' | '+' => []
  | c => [c]

/-- A text without the one `*` it may start with. -/
def dropLeadingStar : Text → Text
  | '*' :: rest => rest
  | t => t

/-- A text without the one `.*` it may end with. -/
def dropTrailingWildcard (t : Text) : Text :=
  match t.reverse with
  | '*' :: '.' :: rest => rest.reverse
  | _ => t

/-- The regular expression a glob stands for, behind the given anchor. -/
def transliterate (anchor glob : Text) : Text :=
  dropTrailingWildcard (anchor ++ (dropLeadingStar glob).flatMap image)

/-- The form a request URL is cut into signatures in. -/
def normalizeUrl (url : Text) : Text := transliterate [] url

end Glob

end RequestFilter
