import SwiftStyle.Command.Error
import SwiftStyle.Report.Listing

/-!
The command that looks at files and lists what it finds.
-/

namespace SwiftStyle.Command

/-- The files of all batches, in order. -/
def filesOf (batches : List Batch) : List SourceFile := batches.flatMap Batch.files

/-- One report over all batches, in order. -/
def lintBatches (batches : List Batch) : Except AnalyzerError RunReport := do
  return RunReport.concat (← batches.mapM fun batch => batch.analyzer.lint batch.files)

/-- The exit code of a run: 2 if it found an error or, when it is strict, anything at all. -/
def lintExitCode (strict : Bool) (run : RunReport) : Nat :=
  if run.hasViolationsAt (if strict then .warning else .error) then 2 else 0

/-- Looks at the files that some paths stand for. The result is the listing and the exit code. -/
def lintFiles (w : Workspace) (parser : Parser) (config : Option Path) (paths : List Path)
    (format : ListingFormat) (strict : Bool) : Except CommandError (String × Nat) := do
  let batches ← (Batch.ofPaths w parser config paths).mapError CommandError.setup
  let run ← (lintBatches batches).mapError CommandError.analysis
  match run.list? format true (filesOf batches) with
  | some listing => return (listing, lintExitCode strict run)
  | none => .error .undrawable

end SwiftStyle.Command
