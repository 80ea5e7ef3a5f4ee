import RequestFilter.Config
import RequestFilter.Digest.Md5
import RequestFilter.Files.FileTree
import RequestFilter.Files.FileUrl

/-!
# Subscriptions

The filter lists in use are named by URLs. Their list is kept in a file, and so is the text of each
of them that lies on another machine.

* `Subscription.ofText` and `Subscription.toText` read and write the list, `Subscription.read` and
  `Subscription.write` its file;
* `SourceLocation.ofUrl` says where the text of a subscription lies, `Subscription.cacheFileName`
  under which name it is cached;
* `Subscription.isFresh` says whether a cached text is still good, and
  `Subscription.removeCacheFiles` removes all of them, as far as it can.
-/

namespace RequestFilter

namespace Subscription

/-! ## 1. The list -/

/-- The entries of a list, which end in semicolons. Blanks around them do not count, and neither do
    empty entries. -/
def ofText (t : Text) : List Text :=
  ((Text.splitOn ';' t).map Text.trim).filter (!·.isEmpty)

/-- The list with its entries. -/
def toText (filters : List Text) : Text := filters.flatMap (· ++ [';'])

/-- The entries in the file at a path; none if there is no such file. -/
def read (files : FileTree) (path : Path) : Except FileError (Option (List Text)) :=
  match files.readText path with
  | .ok t => .ok (some (ofText t))
  | .error .notFound => .ok none
  | .error e => .error e

/-- Writes the list to the file at a path. -/
def write (files : FileTree) (now : Nat) (path : Path) (filters : List Text) :
    Except FileError FileTree :=
  files.write now path (toText filters).toBytes

/-! ## 2. Cached texts -/

/-- The name under which the text of a subscription is cached. -/
def cacheFileName (url : Text) : Text := Md5.hex url.toBytes

/-- The file at a path was changed less than `freshness` ago, or will be in the future. A missing
    file is not fresh. -/
def isFresh (files : FileTree) (path : Path) (freshness now : Nat) : Bool :=
  match files.find path with
  | .error _ => false
  | .ok entry => decide (now < entry.modified) || decide (now - entry.modified < freshness)

/-- The name is not that of the list of subscriptions. -/
def isCacheName (name : Text) : Bool := name != Config.filtersListFile

/-- What a removal leaves: the files, and the paths of those that could not be removed, with the
    reasons. -/
structure Removal where
  files : FileTree
  refused : List (Path × FileError) := []

/-- Removes the file of a name in a directory. The list of subscriptions is left alone, and so is
    what is no regular file. -/
def removeCacheFile (directory : Path) (r : Removal) (name : Text) : Removal :=
  let path := directory.join name
  if isCacheName name && r.files.isFile path then
    match r.files.remove path with
    | .ok files => { r with files := files }
    | .error e => { r with refused := r.refused ++ [(path, e)] }
  else r

/-- Removes the files that lie directly in a directory, apart from the list of subscriptions. Those
    that cannot be removed stay. -/
def removeCacheFiles (files : FileTree) (directory : Path) : Except FileError Removal :=
  match files.list directory with
  | .error e => .error e
  | .ok names => .ok (names.foldl (removeCacheFile directory) { files := files })

end Subscription

/-! ## 3. Locations -/

/-- Where the text of a subscription lies: in a file that is read in place, or in a cached one. -/
inductive SourceLocation where
  | inPlace (path : Path)
  | cached (path : Path)
  deriving Repr, DecidableEq

namespace SourceLocation

/-- The path of the file. -/
def path : SourceLocation → Path
  | .inPlace p => p
  | .cached p => p

/-- Where the text of a subscription lies, if texts are cached in the given directory. -/
def ofUrl (directory : Path) (url : Text) : SourceLocation :=
  if FileUrl.isFileUrl url then .inPlace (FileUrl.pathOr url)
  else .cached (directory.join (Subscription.cacheFileName url))

end SourceLocation

end RequestFilter
