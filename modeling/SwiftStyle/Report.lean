import SwiftStyle.Finding

/-!
What a run says about its files: a report for each file in the order of the files, and the counts
over all of them.
-/

namespace SwiftStyle

/-- What was found and corrected in one file. A file that could not be parsed is skipped. -/
structure FileReport where
  path : Option String
  /-- The violations, rule by rule. -/
  violations : List Violation
  /-- The corrections, ascending by where they start in the text before. -/
  corrections : List Correction
  /-- Why the file was skipped, if it was. -/
  skipped : Option String
  deriving DecidableEq, Repr

/-- Whether a file was skipped. -/
def FileReport.isSkipped (report : FileReport) : Bool := report.skipped.isSome

/-- The reports of a run, one for each file. -/
structure RunReport where
  files : List FileReport
  deriving DecidableEq, Repr

namespace RunReport

/-- The report of a run over no files. -/
def empty : RunReport := ⟨[]⟩

/-- All violations, file by file. -/
def violations (run : RunReport) : List Violation := run.files.flatMap FileReport.violations

/-- The number of files that were looked at. -/
def checked (run : RunReport) : Nat := run.files.countP fun report => !report.isSkipped

/-- The number of files that could not be parsed. -/
def skipped (run : RunReport) : Nat := run.files.countP FileReport.isSkipped

/-- The number of violations of a severity. -/
def count (run : RunReport) (severity : Severity) : Nat :=
  run.violations.countP fun violation => violation.severity == severity

/-- Whether some violation is at least as serious as a severity. -/
def hasViolationsAt (run : RunReport) (severity : Severity) : Bool :=
  run.violations.any fun violation => severity ≤ violation.severity

/-- Two runs one after the other. -/
def append (first second : RunReport) : RunReport := ⟨first.files ++ second.files⟩

instance : Append RunReport := ⟨append⟩

/-- Several runs one after the other. -/
def concat (runs : List RunReport) : RunReport := runs.foldl (· ++ ·) empty

end RunReport

end SwiftStyle
