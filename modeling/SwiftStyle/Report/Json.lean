import SwiftStyle.Json
import SwiftStyle.Report

/-!
Reports as JSON values, written and read back. A record is an object; one is also read from an
array that lists its fields in order.
-/

namespace SwiftStyle

namespace Json

/-- The values of the named fields of a record. An object may lack fields; an array has all of
them but the last ones that may be left out. -/
def record? (names : List String) (trailing : Nat) : Json → Option (List (Option Json))
  | .object fields => some (names.map fun name => field? name (.object fields))
  | .array items =>
    if names.length ≤ items.length + trailing ∧ items.length ≤ names.length then
      some ((List.range names.length).map fun i => items[i]?)
    else none
  | _ => none

/-- A text that may be null. -/
def nullableString? : Json → Option (Option String)
  | .null => some none
  | .string s => some (some s)
  | _ => none

/-- A field with a text that may be missing or null. -/
def optionalString? : Option Json → Option (Option String)
  | none => some none
  | some value => nullableString? value

/-- A text in a field that has to be there. -/
def requiredString? (field : Option Json) : Option String := field.bind string?

/-- A list in a field that has to be there. -/
def requiredItems? {α : Type} (item? : Json → Option α) (field : Option Json) :
    Option (List α) :=
  (field.bind items?).bind fun items => items.mapM item?

end Json

namespace Severity

/-- A severity as its name. -/
def toJson (severity : Severity) : Json := .string severity.name

/-- Reads a severity: its name, or an object of one null field of that name. -/
def ofJson? : Json → Option Severity
  | .string name => ofName? name
  | .object [(name, .null)] => ofName? name
  | _ => none

@[simp]
theorem ofJson?_toJson (severity : Severity) : ofJson? severity.toJson = some severity := by
  simp [toJson, ofJson?]

end Severity

namespace Position

/-- A position as an object of one field. -/
def toJson : Position → Json
  | .offset bytes => .object [("offset", .nat bytes)]
  | .line number => .object [("line", .nat number)]

/-- Reads a position. -/
def ofJson? : Json → Option Position
  | .object [("offset", n)] => n.nat?.map .offset
  | .object [("line", n)] => n.nat?.map .line
  | _ => none

end Position

namespace Location

/-- A location as an object. -/
def toJson (location : Location) : Json :=
  .object [("file", .ofString? location.file), ("position", location.position.toJson)]

/-- Reads a location. -/
def ofJson? (json : Json) : Option Location := do
  match ← json.record? ["file", "position"] 0 with
  | [file, position] => return ⟨← Json.optionalString? file, ← position.bind Position.ofJson?⟩
  | _ => none

end Location

namespace Violation

/-- A violation as an object. -/
def toJson (v : Violation) : Json :=
  .object [
    ("rule_id", .string v.rule.id),
    ("rule_name", .string v.rule.name),
    ("severity", v.severity.toJson),
    ("location", v.location.toJson),
    ("reason", .string v.reason)]

/-- Reads a violation. -/
def ofJson? (json : Json) : Option Violation := do
  match ← json.record? ["rule_id", "rule_name", "severity", "location", "reason"] 0 with
  | [id, name, severity, location, reason] =>
    return ⟨⟨← Json.requiredString? id, ← Json.requiredString? name⟩,
      ← severity.bind Severity.ofJson?, ← location.bind Location.ofJson?,
      ← Json.requiredString? reason⟩
  | _ => none

end Violation

namespace Correction

/-- A correction as an object. -/
def toJson (c : Correction) : Json :=
  .object [
    ("rule_id", .string c.rule.id),
    ("rule_name", .string c.rule.name),
    ("location", c.location.toJson)]

/-- Reads a correction. -/
def ofJson? (json : Json) : Option Correction := do
  match ← json.record? ["rule_id", "rule_name", "location"] 0 with
  | [id, name, location] =>
    return ⟨⟨← Json.requiredString? id, ← Json.requiredString? name⟩,
      ← location.bind Location.ofJson?⟩
  | _ => none

end Correction

namespace FileReport

/-- The reason for skipping a file, as a field that is there only if the file was skipped. -/
def skippedField : Option String → List (String × Json)
  | some reason => [("skipped", .string reason)]
  | none => []

/-- A report as an object. -/
def toJson (report : FileReport) : Json :=
  .object <| [
    ("path", .ofString? report.path),
    ("violations", .array (report.violations.map Violation.toJson)),
    ("corrections", .array (report.corrections.map Correction.toJson))]
    ++ skippedField report.skipped

/-- Reads a report. -/
def ofJson? (json : Json) : Option FileReport := do
  match ← json.record? ["path", "violations", "corrections", "skipped"] 1 with
  | [path, violations, corrections, skipped] =>
    return ⟨← Json.optionalString? path, ← Json.requiredItems? Violation.ofJson? violations,
      ← Json.requiredItems? Correction.ofJson? corrections, ← Json.optionalString? skipped⟩
  | _ => none

end FileReport

namespace RunReport

/-- A run as an object. -/
def toJson (run : RunReport) : Json :=
  .object [("files", .array (run.files.map FileReport.toJson))]

/-- Reads a run. -/
def ofJson? (json : Json) : Option RunReport := do
  match ← json.record? ["files"] 0 with
  | [files] => return ⟨← Json.requiredItems? FileReport.ofJson? files⟩
  | _ => none

end RunReport

end SwiftStyle
