import SwiftStyle.Json.Printer
import SwiftStyle.Report.Excerpt
import SwiftStyle.Report.Json

/-!
Reports for reading: as text, as one line for each violation, as JSON, and with excerpts. Every
violation is shown with the place it resolves to in its own file as the file is now.
-/

namespace SwiftStyle

/-- The forms in which a run can be listed. -/
inductive ListingFormat where
  | text
  | json
  | compact
  | fancy
  deriving DecidableEq, Repr

/-- The format of a name. -/
def ListingFormat.ofName? : String → Option ListingFormat
  | "text" => some .text
  | "json" => some .json
  | "compact" => some .compact
  | "fancy" => some .fancy
  | _ => none

/-- A violation with the name and the file that it is shown with. -/
structure Listed where
  name : String
  file : SourceFile
  violation : Violation

/-- The place of a violation in its file. -/
def Listed.place (item : Listed) : Place :=
  item.violation.location.position.resolve item.file.text

namespace RunReport

/-- All violations of a run with their files; the reports and the files are in the same order. -/
def listed (run : RunReport) (files : List SourceFile) : List Listed :=
  (run.files.zip files).flatMap fun (report, file) =>
    report.violations.map fun violation => ⟨displayName report.path, file, violation⟩

/-- The counts of a run in words. -/
def counts (run : RunReport) : String :=
  s!"Found {run.count .error} error(s), {run.count .warning} warning(s) in {run.checked} file(s)"

/-- The files that were skipped, by name, with the reasons. -/
def skippedFiles (run : RunReport) : List (String × String) :=
  run.files.filterMap fun report =>
    report.skipped.map fun reason => (displayName report.path, reason)

/-- The display attributes of a severity. -/
def attributesOf : Severity → String
  | .error => "31"
  | .warning => "33"

/-- The display attributes of the counts: those of the highest severity that was found. -/
def countAttributes (run : RunReport) : String :=
  if 0 < run.count .error then attributesOf .error
  else if 0 < run.count .warning then attributesOf .warning
  else "32"

/-- A violation in two lines of text. -/
def textOf (colored : Bool) (item : Listed) : List String :=
  let v := item.violation
  let place := item.place
  [s!"{v.rule.id} {v.rule.name} at {item.name}:{place.line}:{place.column}",
    "  " ++ Text.paint colored (attributesOf v.severity) v.severity.name ++ s!": {v.reason}",
    ""]

/-- Lines, each with its end. -/
def unlines (lines : List String) : String := String.join (lines.map fun line => line ++ "\n")

/-- The listing as text: the violations, the skipped files, and the counts. -/
def listText (colored : Bool) (run : RunReport) (files : List SourceFile) : String :=
  let skipped := run.skippedFiles.map fun (name, reason) => s!"{name}: skipped ({reason})"
  let counts :=
    if 0 < run.skipped then s!"{run.counts}, {run.skipped} skipped" else run.counts
  unlines <| (run.listed files).flatMap (textOf colored) ++ skipped
    ++ [Text.paint colored run.countAttributes counts]

/-- A violation in one line. -/
def compactOf (item : Listed) : String :=
  let v := item.violation
  let place := item.place
  s!"{item.name}:{place.line}:{place.column}: {v.severity.name} [{v.rule.id}] {v.reason}"

/-- The listing with one line for each violation and nothing else. -/
def listCompact (run : RunReport) (files : List SourceFile) : String :=
  unlines ((run.listed files).map compactOf)

/-- A violation as an object of the listing. -/
def jsonOf (item : Listed) : Json :=
  let v := item.violation
  let place := item.place
  .object [
    ("file", .string item.name),
    ("line", .nat place.line),
    ("column", .nat place.column),
    ("offset", .nat place.offset),
    ("severity", v.severity.toJson),
    ("rule_id", .string v.rule.id),
    ("rule_name", .string v.rule.name),
    ("reason", .string v.reason)]

/-- The listing as a JSON value. -/
def listingJson (run : RunReport) (files : List SourceFile) : Json :=
  .object [
    ("files_checked", .nat run.checked),
    ("files_skipped", .nat run.skipped),
    ("errors", .nat (run.count .error)),
    ("warnings", .nat (run.count .warning)),
    ("violations", .array ((run.listed files).map jsonOf)),
    ("skipped", .array (run.skippedFiles.map fun (name, reason) =>
      .object [("file", .string name), ("reason", .string reason)]))]

/-- The listing as JSON text over several lines. -/
def listJson (run : RunReport) (files : List SourceFile) : String :=
  (run.listingJson files).pretty 0 ++ "\n"

/-- The listing with an excerpt for each violation, and the counts. There is none if a violation
points past the end of its file. -/
def listFancy? (colored : Bool) (run : RunReport) (files : List SourceFile) : Option String := do
  let excerpts ← (run.listed files).mapM fun item =>
    Excerpt.draw? colored item.file item.violation
  return unlines (excerpts.flatMap (· ++ [""]) ++ [run.counts])

/-- The listing in some format. -/
def list? (format : ListingFormat) (colored : Bool) (run : RunReport) (files : List SourceFile) :
    Option String :=
  match format with
  | .text => some (run.listText colored files)
  | .json => some (run.listJson files)
  | .compact => some (run.listCompact files)
  | .fancy => run.listFancy? colored files

end RunReport

end SwiftStyle
