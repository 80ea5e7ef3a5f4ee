import RequestFilter.FilterList
import RequestFilter.Files.Path
import RequestFilter.Json.Writer

/-!
# Configuration

Where data is kept, how long a cached filter list is good for, which lists are subscribed to as long
as nobody chose others, and how long a line may be.

* `Config` is the configuration, `Config.standard` the one that holds without a file;
* `Config.toJson` writes it; `Config/Reader.lean` reads it back;
* `Config.adblockDir` and `Config.filtersListPath` are the places that follow from it.
-/

namespace RequestFilter

/-- The configuration. -/
structure Config where
  /-- The directory below which all data is kept. -/
  dataDir : Path
  /-- How many seconds a cached filter list is good for. -/
  freshnessSecs : UInt64
  /-- The subscriptions that hold while there is no list of them. -/
  defaultFilters : List Text
  /-- The longest line of a filter list that is taken in, in bytes. -/
  maxLineLen : UInt64
  deriving Repr, DecidableEq

namespace Config

/-! ## 1. Defaults -/

/-- The subscription that holds unless another is named. -/
def defaultFilter : Text := "https://easylist-downloads.adblockplus.org/easylist.txt".toList

/-- The configuration that holds without a file, for data in the given directory. -/
def standard (dataDir : Path) : Config where
  dataDir := dataDir
  freshnessSecs := 24 * 60 * 60
  defaultFilters := [defaultFilter]
  maxLineLen := UInt64.ofNat RuleSet.defaultMaxLine

/-- The data directory below the one for the data of all programs, if that is known. -/
def dataDirIn : Option Path → Path
  | some home => home.join "uri-tester".toList
  | none => "uri-tester-data".toList

/-! ## 2. Places -/

/-- The directory of the cached filter lists. -/
def adblockDir (c : Config) : Path := c.dataDir.join "adblock".toList

/-- The name of the file that lists the subscriptions. -/
def filtersListFile : Text := "filters.list".toList

/-- The file that lists the subscriptions. -/
def filtersListPath (c : Config) : Path := c.adblockDir.join filtersListFile

/-- How long a cached filter list is good for, in milliseconds. -/
def freshness (c : Config) : Nat := 1000 * c.freshnessSecs.toNat

/-! ## 3. Written form -/

/-- The fields of a configuration, in the order in which they are written. -/
inductive Field where
  | dataDir
  | freshnessSecs
  | defaultFilters
  | maxLineLen
  deriving Repr, DecidableEq

/-- The name under which a field is written. -/
def Field.name : Field → Text
  | .dataDir => "data_dir".toList
  | .freshnessSecs => "freshness_secs".toList
  | .defaultFilters => "default_filters".toList
  | .maxLineLen => "max_line_len".toList

/-- All fields, in the order in which they are written. -/
def Field.all : List Field := [.dataDir, .freshnessSecs, .defaultFilters, .maxLineLen]

/-- The field with a name. -/
def Field.ofName? (name : Text) : Option Field := Field.all.find? (·.name == name)

/-- The value of a field in JSON. -/
def fieldJson (c : Config) : Field → Text
  | .dataDir => Json.quote c.dataDir
  | .freshnessSecs => Text.ofNat c.freshnessSecs.toNat
  | .defaultFilters => Json.array (c.defaultFilters.map Json.quote)
  | .maxLineLen => Text.ofNat c.maxLineLen.toNat

/-- The configuration in JSON. -/
def toJson (c : Config) : Text :=
  Json.object (Field.all.map fun f => (f.name, c.fieldJson f))

end Config

end RequestFilter
