import RequestFilter.Config.Reader

/-!
# What a tester reports

A tester goes through few states and reports what happens to it on the way.

* `TesterState` is a state, `TesterEvent` a report;
* `TesterEvent.severity` and `TesterEvent.message` say how it is shown.
-/

namespace RequestFilter

/-- What a tester is busy with. While it is compiling, at least one fetch is outstanding. -/
inductive TesterState where
  | loadingSubscriptions
  | compiling
  | ready
  | reloading
  deriving Repr, DecidableEq

/-- The word for a state. -/
def TesterState.label : TesterState → Text
  | .loadingSubscriptions => "LoadingSubscriptions".toList
  | .compiling => "Compiling".toList
  | .ready => "Ready".toList
  | .reloading => "Reloading".toList

/-- What a tester reports: changes of state, what it asks for and refuses, what it loads, and what it
    cannot read, list, remove or save. -/
inductive TesterEvent where
  | stateChanged (before after : TesterState)
  | staleSource (url : Text) (path : Path)
  | outdatedFetch (url : Text) (generation current : Nat)
  | unsubscribedFetch (url : Text)
  | failedFetch (url : Text)
  | fetchEnded (url : Text) (success : Bool)
  | loading (e : LoadEvent)
  | compiled (url : Text) (stats : LoadStats)
  | reloading (filters generation : Nat)
  | unreadableSource (url : Text) (path : Path) (cause : FileError)
  | unreadableList (path : Path) (cause : FileError)
  | unlistedDirectory (path : Path) (cause : FileError)
  | unremovedFile (path : Path) (cause : FileError)
  | unsavedList (cause : TesterError)
  deriving Repr, DecidableEq

namespace TesterEvent

/-- The report of a file that could not be removed. -/
def ofRefusal (refused : Path × FileError) : TesterEvent := .unremovedFile refused.1 refused.2

/-- Losses are worth a warning. -/
def severity : TesterEvent → Severity
  | .stateChanged _ _ | .staleSource _ _ | .outdatedFetch _ _ _ | .unsubscribedFetch _ => .debug
  | .loading e => e.severity
  | .compiled _ _ | .reloading _ _ | .fetchEnded _ _ => .info
  | .failedFetch _ | .unreadableSource _ _ _ | .unreadableList _ _ | .unlistedDirectory _ _
  | .unremovedFile _ _ | .unsavedList _ => .warn

/-- The words of a report. -/
def message : TesterEvent → Text
  | .stateChanged before after =>
    "state ".toList ++ before.label ++ " -> ".toList ++ after.label
  | .staleSource url path => url ++ " is stale, fetching into ".toList ++ path
  | .outdatedFetch url generation current =>
    "ignoring fetch of ".toList ++ url ++ " from generation ".toList ++ Text.ofNat generation ++
      " (now ".toList ++ Text.ofNat current ++ ")".toList
  | .unsubscribedFetch url => "ignoring fetch of unsubscribed ".toList ++ url
  | .failedFetch url => "fetching ".toList ++ url ++ " failed, no new rules from it".toList
  | .fetchEnded url success =>
    (if success then "fetched ".toList else "failed ".toList) ++ url
  | .loading e => e.message
  | .compiled url stats =>
    "compiled ".toList ++ url ++ ": ".toList ++ Text.ofNat stats.rules ++ " rules (".toList ++
      Text.ofNat stats.invalid ++ " invalid, ".toList ++
      Text.ofNat (stats.lines - (stats.rules + stats.invalid)) ++ " skipped lines)".toList
  | .reloading filters generation =>
    "reloading ".toList ++ Text.ofNat filters ++ " filter list(s), generation ".toList ++
      Text.ofNat generation
  | .unreadableSource url path cause =>
    "cannot read ".toList ++ path ++ " for ".toList ++ url ++ ": ".toList ++ cause.message
  | .unreadableList path cause =>
    "cannot read ".toList ++ path ++ ": ".toList ++ cause.message ++
      ", using default filters".toList
  | .unlistedDirectory path cause =>
    "cannot list ".toList ++ path ++ ": ".toList ++ cause.message
  | .unremovedFile path cause =>
    "cannot remove ".toList ++ path ++ ": ".toList ++ cause.message
  | .unsavedList cause =>
    "subscriptions changed but not saved: ".toList ++ cause.message

end TesterEvent

end RequestFilter
