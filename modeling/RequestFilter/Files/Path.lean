import RequestFilter.Text.Basic

/-!
# Paths

A path is a text in which slashes stand between names. What it leads to is a matter of the file
tree; here it is only put together and taken apart.

* `Path.join` appends a path to a directory;
* `Path.pieces` are the texts between the slashes, `Path.isAbsolute` tells where they start;
* `Path.isName` tells names from other texts, `Path.fileName` is the last name.
-/

namespace RequestFilter

/-- The text of a path. -/
abbrev Path := Text

namespace Path

/-- The path starts at the root. -/
def isAbsolute (p : Path) : Bool := p.head? == some '/'

/-- The path `p` seen from a directory. An absolute path stays as it is, and an empty directory adds
    nothing in front. -/
def join (directory p : Path) : Path :=
  if isAbsolute p || directory.isEmpty then p
  else if directory.getLast? = some '/' then directory ++ p
  else directory ++ '/' :: p

/-- The texts between the slashes, empty ones included. -/
def pieces (p : Path) : List Text := Text.splitOn '/' p

/-- The piece that stays where it is. -/
def here : Text := ['.']

/-- The piece that leads up. -/
def up : Text := ['.', '.']

/-- The text can be the name of something in a directory. -/
def isName (name : Text) : Bool :=
  !name.isEmpty && name != here && name != up && !name.contains '/'

/-- The last name of a path; empty if the path ends by leading up or has no name at all. -/
def fileName (p : Path) : Text :=
  match ((pieces p).filter fun piece => !piece.isEmpty && piece != here).getLast? with
  | some name => if name = up then [] else name
  | none => []

end Path

end RequestFilter
