import Bookpress.Text.Basic

/-!
# The journal

Events of a run, in their order.  Warnings and the milestones of a conversion are always written;
details have a level and are written when the verbosity allows it.

* `isEnabled_iff` : details of level zero are never written.
-/

namespace Bookpress

/-- how much an event matters. -/
inductive Severity
  | error | warn | info | debug | trace
deriving Repr, DecidableEq

/-- the name of a severity. -/
def Severity.label : Severity → String
  | .error => "error"
  | .warn => "warn"
  | .info => "info"
  | .debug => "debug"
  | .trace => "trace"

/-- a line of the journal. -/
structure Event where
  severity : Severity
  message : Text
deriving Repr, DecidableEq

/-- whether details of a level are written at a verbosity. -/
def isEnabled (verbosity level : Nat) : Bool := 1 ≤ level && level ≤ verbosity

theorem isEnabled_iff {verbosity level : Nat} :
    isEnabled verbosity level = true ↔ 1 ≤ level ∧ level ≤ verbosity := by
  simp [isEnabled]

/-- the events of a detail. -/
def details (verbosity level : Nat) (message : Text) : List Event :=
  if isEnabled verbosity level then [⟨if level = 1 then .debug else .trace, message⟩] else []

end Bookpress
