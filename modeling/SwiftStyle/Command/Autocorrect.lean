import SwiftStyle.Command.Error

/-!
The command that corrects files. It says where it made corrections in the texts as they were
before.
-/

namespace SwiftStyle.Command

/-- A workspace after the files that changed were written to it. Each file is given as it was and
as it is now. -/
def writeChanged (w : Workspace) : List (SourceFile × SourceFile) → Except CommandError Workspace
  | [] => .ok w
  | (before, after) :: rest =>
    match after.path with
    | none => writeChanged w rest
    | some path =>
      if before.text = after.text then writeChanged w rest
      else
        match w.write ⟨path⟩ after.text with
        | .ok w => writeChanged w rest
        | .error error => .error (.unwritable ⟨path⟩ error)

/-- The workspace after some batches were corrected, and the report. A dry run writes nothing. -/
def correctBatches (w : Workspace) (dryRun : Bool) :
    List Batch → Except CommandError (Workspace × RunReport)
  | [] => .ok (w, .empty)
  | batch :: batches => do
    let (files, run) ← (batch.analyzer.correct batch.files).mapError CommandError.correction
    let w ← if dryRun then .ok w else writeChanged w (batch.files.zip files)
    let (w, rest) ← correctBatches w dryRun batches
    return (w, run ++ rest)

/-- The corrections of a run in lines, each with its place in the text of its file before. -/
def correctionLines (run : RunReport) (sources : List SourceFile) : List String :=
  (run.files.zip sources).flatMap fun (report, file) =>
    report.corrections.map fun correction =>
      let place := correction.location.position.resolve file.text
      s!"{displayName report.path}:{place.line}:{place.column} Corrected {correction.rule.name}"

/-- The corrections of a run and their number. -/
def listCorrections (dryRun : Bool) (run : RunReport) (sources : List SourceFile) : String :=
  let count := (run.files.flatMap FileReport.corrections).length
  let verb := if dryRun then "Would apply" else "Applied"
  let counted := s!"{verb} {count} correction(s)"
  String.join ((correctionLines run sources ++ [counted]).map fun line => line ++ "\n")

/-- Corrects the files that some paths stand for. The result is the workspace afterwards and the
list of corrections. All files are read before any is written. -/
def correctFiles (w : Workspace) (parser : Parser) (config : Option Path) (paths : List Path)
    (dryRun : Bool) : Except CommandError (Workspace × String) := do
  let batches ← (Batch.ofPaths w parser config paths).mapError CommandError.setup
  let (after, run) ← correctBatches w dryRun batches
  return (after, listCorrections dryRun run (batches.flatMap Batch.files))

end SwiftStyle.Command
