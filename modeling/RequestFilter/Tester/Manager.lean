import RequestFilter.Tester.Session

/-!
# The installed tester

A host consults at most one tester. As long as none is installed, everything may be loaded.

* `Manager` holds the installed session, if any;
* `Manager.shouldLoad` asks it, `Manager.editFilters` changes its subscriptions.
-/

namespace RequestFilter

/-- The installed session, if any. -/
structure Manager where
  installed : Option Session := none

namespace Manager

/-- Installs a session in place of any earlier one. -/
def install (_ : Manager) (s : Session) : Manager := ⟨some s⟩

/-- Takes the installed session out. -/
def uninstall (m : Manager) : Option Session × Manager := (m.installed, {})

/-- A session is installed. -/
def isInstalled (m : Manager) : Bool := m.installed.isSome

/-- Whether a request may be loaded. -/
def shouldLoad (m : Manager) (r : Request) : Bool × Manager :=
  match m.installed with
  | none => (true, m)
  | some s =>
    let (decision, t) := s.tester.query r
    (!decision.blocked, ⟨some { s with tester := t }⟩)

/-- Changes the subscriptions of the installed session and loads them. -/
def editFilters (m : Manager) (now : Nat) (filters : List Text) : Manager :=
  ⟨m.installed.map (·.editFilters now filters)⟩

end Manager

end RequestFilter
