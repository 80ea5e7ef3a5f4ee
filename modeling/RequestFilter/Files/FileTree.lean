import RequestFilter.Files.Path
import RequestFilter.Text.Utf8
import Std.Data.TreeMap.Lemmas

/-!
# File trees

The files and directories that a program sees, as a value: reading looks a path up, and writing
gives a new tree.

* `FileTree` maps every place below the root to the file or directory that lies there;
* `FileTree.locate` follows a path to a place;
* `FileTree.read`, `FileTree.list`, `FileTree.write`, `FileTree.makeDirectories` and
  `FileTree.remove` are the operations, and `FileError` says why one of them was refused.

Trees are restricted in two ways: nothing in them is a symbolic link, a device or a pipe, and all
names are Unicode. Times are milliseconds.
-/

namespace RequestFilter

/-! ## 1. Trees -/

/-- The names on the way from the root to a place. -/
abbrev Location := List Text

/-- What lies at a place, and when it was last changed: a directory or a regular file. There are no
    symbolic links and no special files. -/
inductive Entry where
  | directory (modified : Nat)
  | file (content : Bytes) (modified : Nat)
  deriving Repr, DecidableEq

namespace Entry

/-- The entry is a regular file. -/
def isFile : Entry → Bool
  | directory _ => false
  | file _ _ => true

/-- When the entry was last changed. -/
def modified : Entry → Nat
  | directory t => t
  | file _ t => t

end Entry

/-- Why an operation on files was refused. -/
inductive FileError where
  | notFound
  | isADirectory
  | notADirectory
  | alreadyExists
  | nameTooLong
  | nulInPath
  | notUtf8
  | permissionDenied
  | notPermitted
  deriving Repr, DecidableEq

/-- The words for a refusal. -/
def FileError.message : FileError → Text
  | .notFound => "No such file or directory (os error 2)".toList
  | .isADirectory => "Is a directory (os error 21)".toList
  | .notADirectory => "Not a directory (os error 20)".toList
  | .alreadyExists => "File exists (os error 17)".toList
  | .nameTooLong => "File name too long (os error 36)".toList
  | .nulInPath => "file name contained an unexpected NUL byte".toList
  | .notUtf8 => "stream did not contain valid UTF-8".toList
  | .permissionDenied => "Permission denied (os error 13)".toList
  | .notPermitted => "Operation not permitted (os error 1)".toList

/-- Files and directories, and the place from which relative paths start. -/
structure FileTree where
  entries : Std.TreeMap Location Entry := {}
  /-- The places whose files cannot be removed, and why. They are read and written as any other. -/
  pinned : Std.TreeMap Location FileError := {}
  current : Location := []

namespace FileTree

/-- What lies at a place. The root is always a directory. -/
def at? (tree : FileTree) (place : Location) : Option Entry :=
  if place.isEmpty then some (.directory 0) else tree.entries[place]?

/-! ## 2. Paths -/

/-- The longest name and the longest path that is followed, in bytes. -/
def maxName : Nat := 255
def maxPath : Nat := 4095

/-- Passes through a directory. -/
def enter (tree : FileTree) (place : Location) : Except FileError Unit :=
  match tree.at? place with
  | some (.directory _) => .ok ()
  | some (.file _ _) => .error .notADirectory
  | none => .error .notFound

/-- Follows pieces from a place on. Everything passed through has to be a directory; what the last
    piece leads to need not exist. -/
def walk (tree : FileTree) : Location → List Text → Except FileError Location
  | place, [] => .ok place
  | place, piece :: rest =>
    match tree.enter place with
    | .error e => .error e
    | .ok _ =>
      if piece.isEmpty || piece == Path.here then walk tree place rest
      else if piece == Path.up then walk tree place.dropLast rest
      else if maxName < piece.byteSize then .error .nameTooLong
      else walk tree (place ++ [piece]) rest

/-- The place a path starts from. -/
def base (tree : FileTree) (path : Path) : Location :=
  if path.isAbsolute then [] else tree.current

/-- The place a path leads to. -/
def locate (tree : FileTree) (path : Path) : Except FileError Location :=
  if path.contains '\x00' then .error .nulInPath
  else if maxPath < path.byteSize then .error .nameTooLong
  else if path.isEmpty then .error .notFound
  else tree.walk (tree.base path) path.pieces

/-- What a path leads to. -/
def find (tree : FileTree) (path : Path) : Except FileError Entry :=
  match tree.locate path with
  | .error e => .error e
  | .ok place =>
    match tree.at? place with
    | some entry => .ok entry
    | none => .error .notFound

/-- The path leads to something. -/
def exists? (tree : FileTree) (path : Path) : Bool := (tree.find path).isOk

/-! ## 3. Reading -/

/-- The content of the file at a path. -/
def read (tree : FileTree) (path : Path) : Except FileError Bytes :=
  match tree.find path with
  | .error e => .error e
  | .ok (.directory _) => .error .isADirectory
  | .ok (.file content _) => .ok content

/-- What can be read is there. -/
theorem exists?_of_read {tree : FileTree} {path : Path} {content : Bytes}
    (h : tree.read path = .ok content) : tree.exists? path = true := by
  unfold read at h
  unfold exists?
  cases hfind : tree.find path with
  | error e => simp [hfind] at h
  | ok entry => rfl

/-- The text of the file at a path, which has to be UTF-8. -/
def readText (tree : FileTree) (path : Path) : Except FileError Text :=
  match tree.read path with
  | .error e => .error e
  | .ok content =>
    match Text.ofBytes? content with
    | some text => .ok text
    | none => .error .notUtf8

/-- The place of the directory at a path. -/
def directory (tree : FileTree) (path : Path) : Except FileError Location :=
  match tree.locate path with
  | .error e => .error e
  | .ok place =>
    match tree.enter place with
    | .error e => .error e
    | .ok _ => .ok place

/-- The path leads to a regular file. -/
def isFile (tree : FileTree) (path : Path) : Bool :=
  match tree.find path with
  | .error _ => false
  | .ok entry => entry.isFile

/-- The name under which a place lies directly in a directory. -/
def nameIn (directory : Location) (place : Location) : Option Text :=
  if place.dropLast = directory then place.getLast? else none

/-- The names that are taken in a directory. -/
def namesIn (tree : FileTree) (directory : Location) : List Text :=
  (tree.entries.keys.filterMap (nameIn directory)).filter Path.isName

/-- The names in the directory at a path. -/
def list (tree : FileTree) (path : Path) : Except FileError (List Text) :=
  match tree.directory path with
  | .error e => .error e
  | .ok place => .ok (tree.namesIn place)

/-! ## 4. Changing -/

/-- The tree with an entry at a place. -/
def put (tree : FileTree) (place : Location) (entry : Entry) : FileTree :=
  { tree with entries := tree.entries.insert place entry }

/-- Writes a file in place of any earlier one. -/
def write (tree : FileTree) (now : Nat) (path : Path) (content : Bytes) :
    Except FileError FileTree :=
  match tree.locate path with
  | .error e => .error e
  | .ok place =>
    match tree.at? place with
    | some (.directory _) => .error .isADirectory
    | _ => .ok (tree.put place (.file content now))

/-- Makes a directory where the pieces lead from the base. -/
def makeDirectory (tree : FileTree) (now : Nat) (base : Location) (pieces : List Text) :
    Except FileError FileTree :=
  match tree.walk base pieces with
  | .error e => .error e
  | .ok place =>
    match tree.at? place with
    | some _ => .error .alreadyExists
    | none => .ok (tree.put place (.directory now))

/-- The pieces lead to a directory. -/
def leadsToDirectory (tree : FileTree) (base : Location) (pieces : List Text) : Bool :=
  match tree.walk base pieces with
  | .error _ => false
  | .ok place => (tree.enter place).isOk

/-- Makes a directory if the pieces, last one first, do not lead to one yet. If something on the way
    is missing, it is made first, and stays even if the rest fails. -/
def makeMissing (now : Nat) (base : Location) :
    FileTree → List Text → FileTree × Except FileError Unit
  | tree, [] => (tree, .ok ())
  | tree, last :: parents =>
    if last.isEmpty || last == Path.here then makeMissing now base tree parents
    else
      let pieces := (last :: parents).reverse
      match tree.makeDirectory now base pieces with
      | .ok next => (next, .ok ())
      | .error .notFound =>
        match makeMissing now base tree parents with
        | (next, .error e) => (next, .error e)
        | (next, .ok _) =>
          match next.makeDirectory now base pieces with
          | .ok made => (made, .ok ())
          | .error e => (next, if next.leadsToDirectory base pieces then .ok () else .error e)
      | .error e => (tree, if tree.leadsToDirectory base pieces then .ok () else .error e)

/-- Makes the directory at a path with everything that is missing on the way. -/
def makeDirectories (tree : FileTree) (now : Nat) (path : Path) :
    FileTree × Except FileError Unit :=
  if path.contains '\x00' then (tree, .error .nulInPath)
  else if maxPath < path.byteSize then (tree, .error .nameTooLong)
  else makeMissing now (tree.base path) tree path.pieces.reverse

/-- The tree without what lies at a place. -/
def erase (tree : FileTree) (place : Location) : FileTree :=
  { tree with entries := tree.entries.erase place }

/-- Removes the file at a path. -/
def remove (tree : FileTree) (path : Path) : Except FileError FileTree :=
  match tree.locate path with
  | .error e => .error e
  | .ok place =>
    match tree.at? place with
    | none => .error .notFound
    | some (.directory _) => .error .isADirectory
    | some (.file _ _) =>
      match tree.pinned[place]? with
      | some e => .error e
      | none => .ok (tree.erase place)

end FileTree

end RequestFilter
