import RequestFilter.Cli.Needs

/-!
# The program

Reads the files that a command needs, carries the command out on them, and writes back what it
changed.
-/

namespace RequestFilter

namespace Cli

/-! ## 1. Reading -/

/-- A time of the file system, in milliseconds. -/
def milliseconds (t : IO.FS.SystemTime) : Nat := (t.sec * 1000).toNat + t.nsec.toNat / 1000000

/-- The time, read off a file that was made for this purpose. -/
def clock : IO Nat := do
  let (_, path) ← IO.FS.createTempFile
  let t := (← path.metadata).modified
  IO.FS.removeFile path
  return milliseconds t

/-- The path of a place. -/
def pathOf (place : Location) : String := String.ofList ('/' :: Text.join ['/'] place)

/-- Takes what really lies at a place into the tree. -/
def observe (files : FileTree) (place : Location) : IO FileTree := do
  let path := (← IO.currentDir) / pathOf place
  match ← path.metadata.toBaseIO with
  | .error _ => return files
  | .ok data =>
    let modified := milliseconds data.modified
    if data.type matches .dir then return files.put place (.directory modified)
    else return files.put place (.file (← IO.FS.readBinFile path).toList modified)

/-- Takes what lies on the way to a path, and at its end, into the tree. -/
def observePath (files : FileTree) (path : Path) : IO FileTree := do
  let mut files := files
  let mut place := files.base path
  for piece in path.pieces do
    if piece == Path.up then
      place := place.dropLast
    else if !piece.isEmpty && piece != Path.here then
      place := place ++ [piece]
      files ← observe files place
  return files

/-- Takes what lies directly in a directory into the tree. -/
def observeDirectory (files : FileTree) (path : Path) : IO FileTree := do
  match files.directory path with
  | .error _ => return files
  | .ok place =>
    let mut files := files
    for entry in ← ((← IO.currentDir) / pathOf place).readDir do
      files ← observe files (place ++ [entry.fileName.toList])
    return files

/-- The part of the file system that an invocation needs. Each round may bring up further needs, of
    which there are three kinds at most. -/
def observeNeeds (standard : Config) (i : Invocation) : IO FileTree := do
  let here := ((← IO.currentDir).toString.toList)
  let mut files : FileTree := { current := (Path.pieces here).filter (!·.isEmpty) }
  files ← observePath files here
  for _ in [0:3] do
    for path in needs standard files i do
      files ← observePath files path
    for path in neededDirectories standard files i do
      files ← observePath files path
      files ← observeDirectory files path
  return files

/-! ## 2. Writing -/

/-- Makes the file system agree with a tree where it differs from an earlier one. -/
def writeChanges (before after : FileTree) : IO Unit := do
  for (place, _) in before.entries.toList do
    if after.entries[place]?.isNone then IO.FS.removeFile (pathOf place)
  for (place, entry) in after.entries.toList do
    if before.entries[place]? != some entry then
      match entry with
      | .directory _ => IO.FS.createDir (pathOf place)
      | .file content _ => IO.FS.writeBinFile (pathOf place) ⟨content.toArray⟩

/-- A duration in nanoseconds as it is shown: milliseconds with one place, or whole nanoseconds. -/
def Duration.show (nanoseconds : Nat) : Duration → Text
  | .whole =>
    let tenths := nanoseconds / 100000
    Text.ofNat (tenths / 10) ++ '.' :: Text.ofNat (tenths % 10)
  | .perOperation n => Text.ofNat (nanoseconds / n)

/-- A line as it is shown, after so many nanoseconds. -/
def Line.show (nanoseconds : Nat) : Line → Text
  | .plain t => t
  | .timed before duration after => before ++ duration.show nanoseconds ++ after

/-- Whether a report is logged. -/
def isLogged (verbose : Bool) : Severity → Bool
  | .warn => true
  | .info | .debug => verbose

/-- The configuration that holds without a file. The directory for the data of all programs is the
    one named by the environment, or lies in the home directory. -/
def standardConfig : IO Config := do
  let named := (← IO.getEnv "XDG_DATA_HOME").map String.toList
  let home := (← IO.getEnv "HOME").map fun h => Path.join h.toList ".local/share".toList
  return Config.standard (Config.dataDirIn ((named.filter Path.isAbsolute).or home))

/-- Carries out an invocation in the real file system. -/
def carryOut (i : Invocation) : IO Outcome := do
  let standard ← standardConfig
  let files ← observeNeeds standard i
  let now ← clock
  let start ← IO.monoNanosNow
  let outcome := execute standard files now i
  writeChanges files outcome.files
  let elapsed := (← IO.monoNanosNow) - start
  for event in outcome.events do
    if isLogged i.verbose event.severity then
      IO.eprintln (String.ofList ('[' :: event.severity.label ++ ']' :: ' ' :: event.message))
  for line in outcome.lines do
    IO.println (String.ofList (line.show elapsed))
  if let some failure := outcome.failure then
    IO.eprintln (String.ofList ("Error: ".toList ++ failure.message))
  return outcome

end Cli

end RequestFilter

open RequestFilter in
/-- Runs the program. -/
def main (arguments : List String) : IO UInt32 := do
  match Cli.Invocation.ofArguments (arguments.map String.toList) with
  | .error refusal => return (Cli.exitCode (.error refusal)).toUInt32
  | .ok i => return (Cli.exitCode (.ok (← Cli.carryOut i))).toUInt32
