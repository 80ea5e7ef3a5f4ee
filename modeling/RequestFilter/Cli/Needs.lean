import RequestFilter.Cli.Commands

/-!
# The files a command needs

A command works on a file tree, so the part of the real one that matters to it has to be read
before. Which part that is follows from what is known already: the configuration names a directory,
and a list in it names further files.

* `Cli.needs` are the paths whose files a command reads or writes;
* `Cli.neededDirectories` are those whose content it looks through.
-/

namespace RequestFilter

namespace Cli

/-- The directory of cached texts that a command works on. -/
def cacheDirectory (config : Config) : Command → Option Path
  | .listFilters dataDir | .setFilters dataDir _ | .update dataDir _ =>
    some (withDataDir config dataDir).adblockDir
  | _ => none

/-- The paths of the subscriptions in the list of a directory, and of its list. -/
def subscribedPaths (config : Config) (files : FileTree) (directory : Path) : List Path :=
  let path := directory.join Config.filtersListFile
  let filters :=
    match Subscription.read files path with
    | .ok (some filters) => filters
    | _ => config.defaultFilters
  path :: filters.map fun url => (SourceLocation.ofUrl directory url).path

/-- The paths whose files a command reads or writes, as far as the known files tell. -/
def needs (standard : Config) (files : FileTree) (i : Invocation) : List Path :=
  i.config.toList ++
    match configuration standard files i with
    | .error _ => []
    | .ok config =>
      (match i.command with
        | .compile inputs _ | .check inputs _ _ _ => inputs
        | .bench inputs _ urls => inputs ++ urls.toList
        | _ => []) ++
      ((cacheDirectory config i.command).map (subscribedPaths config files)).getD []

/-- The directories whose content a command looks through. -/
def neededDirectories (standard : Config) (files : FileTree) (i : Invocation) : List Path :=
  match configuration standard files i with
  | .error _ => []
  | .ok config => (cacheDirectory config i.command).toList

end Cli

end RequestFilter
