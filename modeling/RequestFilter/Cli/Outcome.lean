import RequestFilter.Cli.Arguments
import RequestFilter.Tester.Event

/-!
# What a command comes to

A command prints lines, changes files, logs what it does and may fail.

* `Cli.Line` is a line of output; how long something took is left open for the program to fill in;
* `Cli.Failure` says why a command failed, `Cli.Failure.message` in which words;
* `Cli.Outcome` is everything together.
-/

namespace RequestFilter

namespace Cli

/-- A duration that is printed: of the whole command, or of one of so many operations. -/
inductive Duration where
  | whole
  | perOperation (operations : Nat)
  deriving Repr, DecidableEq

/-- A line of output. In a timed line a duration stands between two texts. -/
inductive Line where
  | plain (t : Text)
  | timed (before : Text) (duration : Duration) (after : Text)
  deriving Repr, DecidableEq

/-- Why a command failed. -/
inductive Failure where
  | noInputs
  | unreadable (path : Path) (cause : FileError)
  | uncreatable (path : Path) (cause : FileError)
  | unwritable (path : Path) (cause : FileError)
  | tester (cause : TesterError)
  deriving Repr, DecidableEq

/-- The words for a failure. -/
def Failure.message : Failure → Text
  | .noInputs => "No input files specified".toList
  | .unreadable path cause => "Failed to read '".toList ++ path ++ "': ".toList ++ cause.message
  | .uncreatable path cause => "Failed to create '".toList ++ path ++ "': ".toList ++ cause.message
  | .unwritable path cause => "Failed to write '".toList ++ path ++ "': ".toList ++ cause.message
  | .tester cause => cause.message

/-- The files after a command, what it printed and logged, and why it failed, if it did. -/
structure Outcome where
  files : FileTree
  lines : List Line := []
  events : List TesterEvent := []
  failure : Option Failure := none

/-- The exit code of a program that carried out a command, or refused to. -/
def exitCode : Except Refusal Outcome → Nat
  | .ok outcome => if outcome.failure.isSome then 1 else 0
  | .error .usage => 2
  | .error .help => 0

end Cli

end RequestFilter
