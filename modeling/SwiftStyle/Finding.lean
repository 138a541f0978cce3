import SwiftStyle.Severity
import SwiftStyle.Location

/-!
What a run reports about a file: violations of rules and corrections that were made.
-/

namespace SwiftStyle

/-- The identifier and the name of the rule that reports something. -/
structure Reporter where
  id : String
  name : String
  deriving DecidableEq, Repr

/-- A violation of a rule. -/
structure Violation where
  rule : Reporter
  severity : Severity
  location : Location
  reason : String
  deriving DecidableEq, Repr

/-- A correction that was made; its location is the start of the edit in the text before. -/
structure Correction where
  rule : Reporter
  location : Location
  deriving DecidableEq, Repr

/-- A violation in one line. -/
def Violation.display (v : Violation) : String :=
  s!"{v.location.display}: {v.severity.name}: {v.rule.name} Violation: {v.reason} ({v.rule.id})"

/-- A correction in one line. -/
def Correction.display (c : Correction) : String :=
  s!"{c.location.display} Corrected {c.rule.name}"

end SwiftStyle
