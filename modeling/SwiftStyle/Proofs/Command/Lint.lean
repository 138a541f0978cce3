import SwiftStyle.Proofs.Batch.Distinct
import SwiftStyle.Proofs.Analyzer.Alone
import SwiftStyle.Proofs.Json.Reading

/-!
What a run over several batches lists. Reports and files are collected apart from each other, in one
order, so that each report meets the file it is about; every violation is listed once, and what is
counted is what is listed. What a listing says of a violation is an `Entry`, which is made of the
violation and its own file alone; the listings are told from the entries, and a listing as JSON is
read back to see what it says.
-/

namespace SwiftStyle

namespace RunReport

variable {run : RunReport} {files : List SourceFile}

theorem map_violation_listed (same : run.files.length = files.length) :
    (run.listed files).map Listed.violation = run.violations := by
  have all : (run.files.zip files).map Prod.fst = run.files :=
    List.map_fst_zip (Nat.le_of_eq same)
  rw [violations, listed, List.map_flatMap]
  conv_rhs => rw [← all, List.flatMap_map]
  apply List.flatMap_congr
  rintro ⟨report, file⟩ _
  rw [List.map_map]
  exact List.map_id _

theorem count_error_add_count_warning (run : RunReport) :
    run.count .error + run.count .warning = run.violations.length := by
  rw [List.length_eq_countP_add_countP fun v => v.severity == .error]
  congr 1
  apply List.countP_congr
  intro v _
  cases v.severity <;> decide

theorem checked_add_skipped (run : RunReport) :
    run.checked + run.skipped = run.files.length := by
  rw [List.length_eq_countP_add_countP FileReport.isSkipped, Nat.add_comm]
  congr 1
  apply List.countP_congr
  intro report _
  simp

theorem length_skippedFiles (run : RunReport) : run.skippedFiles.length = run.skipped := by
  rw [skippedFiles, List.length_filterMap_eq_countP, skipped]
  apply List.countP_congr
  intro report _
  rw [Option.isSome_map]
  rfl

theorem hasViolationsAt_error : run.hasViolationsAt .error = true ↔
    ∃ v ∈ run.violations, v.severity = .error := by
  simp only [hasViolationsAt, List.any_eq_true, decide_eq_true_eq, Severity.error_le_iff]

theorem hasViolationsAt_warning : run.hasViolationsAt .warning = true ↔ run.violations ≠ [] := by
  simp only [hasViolationsAt, List.any_eq_true, decide_eq_true_eq, Severity.warning_le, and_true]
  exact ⟨fun ⟨v, mem⟩ => List.ne_nil_of_mem mem, List.exists_mem_of_ne_nil _⟩

end RunReport

/-- What a listing says of a violation: the name of the file and the place in it, how serious the
violation is, which rule reports it, and why. -/
structure Entry where
  file : String
  place : Place
  severity : Severity
  rule : Reporter
  reason : String
  deriving DecidableEq, Repr

namespace Entry

/-- What is to be said of a violation in a file. -/
def ofViolation (file : SourceFile) (v : Violation) : Entry :=
  ⟨displayName file.path, v.location.position.resolve file.text, v.severity, v.rule, v.reason⟩

/-- The lines of an entry in a listing as text. Only the severity has a colour. -/
def lines (colored : Bool) (entry : Entry) : List String :=
  let severity := match entry.severity, colored with
    | .error, true => "\x1b[31merror\x1b[0m"
    | .warning, true => "\x1b[33mwarning\x1b[0m"
    | severity, false => severity.name
  [s!"{entry.rule.id} {entry.rule.name} at {entry.file}:{entry.place.line}:{entry.place.column}",
    "  " ++ severity ++ s!": {entry.reason}",
    ""]

/-- The line of an entry in a listing that has one line for each. -/
def line (entry : Entry) : String :=
  let place := s!"{entry.file}:{entry.place.line}:{entry.place.column}"
  s!"{place}: {entry.severity.name} [{entry.rule.id}] {entry.reason}"

/-- The object of an entry in a listing as JSON. -/
def object (entry : Entry) : Json :=
  .object [
    ("file", .string entry.file),
    ("line", .nat entry.place.line),
    ("column", .nat entry.place.column),
    ("offset", .nat entry.place.offset),
    ("severity", .string entry.severity.name),
    ("rule_id", .string entry.rule.id),
    ("rule_name", .string entry.rule.name),
    ("reason", .string entry.reason)]

variable (file : SourceFile) (v : Violation)

theorem textOf_eq_lines (colored : Bool) :
    RunReport.textOf colored ⟨displayName file.path, file, v⟩
      = (ofViolation file v).lines colored := by
  obtain ⟨rule, severity, location, reason⟩ := v
  cases severity <;> cases colored <;> rfl

theorem compactOf_eq_line :
    RunReport.compactOf ⟨displayName file.path, file, v⟩ = (ofViolation file v).line := by
  rfl

theorem jsonOf_eq_object :
    RunReport.jsonOf ⟨displayName file.path, file, v⟩ = (ofViolation file v).object := by
  rfl

theorem whole_object (entry : Entry) : entry.object.Whole := by
  refine .object ?_
  simp [Json.nat, Json.Whole.string, Json.Whole.integer]

end Entry

namespace RunReport

/-- The last line of a listing as text: the counts, in the colour of the highest severity. -/
def summary (colored : Bool) (run : RunReport) : String :=
  let errors := run.count .error
  let warnings := run.count .warning
  let found := s!"Found {errors} error(s), {warnings} warning(s) in {run.checked} file(s)"
  let counts := if 0 < run.skipped then s!"{found}, {run.skipped} skipped" else found
  let colour := if 0 < errors then "31" else if 0 < warnings then "33" else "32"
  if colored then "\x1b[" ++ colour ++ "m" ++ counts ++ "\x1b[0m" else counts

/-- The lines of a listing as text. -/
def lines (colored : Bool) (run : RunReport) (entries : List Entry)
    (unparsed : List (String × String)) : List String :=
  entries.flatMap (Entry.lines colored)
    ++ (unparsed.map fun (name, reason) => s!"{name}: skipped ({reason})")
    ++ [run.summary colored]

/-- The value of a listing as JSON. -/
def document (run : RunReport) (entries : List Entry) (unparsed : List (String × String)) : Json :=
  .object [
    ("files_checked", .nat run.checked),
    ("files_skipped", .nat run.skipped),
    ("errors", .nat (run.count .error)),
    ("warnings", .nat (run.count .warning)),
    ("violations", .array (entries.map Entry.object)),
    ("skipped", .array (unparsed.map fun (name, reason) =>
      .object [("file", .string name), ("reason", .string reason)]))]

theorem whole_document (run : RunReport) (entries : List Entry)
    (unparsed : List (String × String)) : (run.document entries unparsed).Whole := by
  have violations : (Json.array (entries.map Entry.object)).Whole := by
    refine .array ?_
    rw [List.forall_mem_map]
    exact fun entry _ => entry.whole_object
  have files : (Json.array (unparsed.map fun (name, reason) =>
      .object [("file", .string name), ("reason", .string reason)])).Whole := by
    refine .array ?_
    rw [List.forall_mem_map]
    rintro ⟨name, reason⟩ _
    refine .object ?_
    simp [Json.Whole.string]
  refine .object ?_
  simp [Json.nat, Json.Whole.integer, violations, files]

end RunReport

namespace Batch

open Command (filesOf lintBatches lintExitCode)

variable {batches : List Batch}

/-- What the rules report of a file, rule by rule; nothing of a file that cannot be parsed. -/
def violationsOf (batch : Batch) (file : SourceFile) : List Violation :=
  match file.outline with
  | .error _ => []
  | .ok _ => batch.analyzer.rules.flatMap fun rule =>
    rule.behaviour.violations file (Analyzer.indexOf batch.files)

/-- What is listed of all batches, file by file. -/
def listedOfAll (batches : List Batch) : List Listed :=
  batches.flatMap fun batch => batch.files.flatMap fun file =>
    (batch.violationsOf file).map fun violation => ⟨displayName file.path, file, violation⟩

/-- What is to be said of all batches, file by file. -/
def entries (batches : List Batch) : List Entry :=
  batches.flatMap fun batch => batch.files.flatMap fun file =>
    (batch.violationsOf file).map (Entry.ofViolation file)

/-- The files of all batches that cannot be parsed, by name, with the reasons. -/
def unparsed (batches : List Batch) : List (String × String) :=
  (filesOf batches).filterMap fun file =>
    match file.outline with
    | .error failure => some (displayName file.path, failure.describe)
    | .ok _ => none

/-- What is said of a file among those of its batch. -/
def reported (batch : Batch) (file : SourceFile) : FileReport :=
  batch.analyzer.lintWith (Analyzer.indexOf batch.files) file

/-- What looking at all batches says of their files. -/
def lintReport (batches : List Batch) : RunReport :=
  ⟨batches.flatMap fun batch => batch.files.map batch.reported⟩

theorem lint_files {batch : Batch} (completes : batch.analyzer.Completes batch.files) :
    batch.analyzer.lint batch.files = .ok ⟨batch.files.map batch.reported⟩ :=
  Analyzer.lint_of_index (Analyzer.index_of_completes completes)

theorem lintBatches_eq (completes : ∀ batch ∈ batches, batch.analyzer.Completes batch.files) :
    lintBatches batches = .ok (lintReport batches) := by
  have linted : batches.mapM (fun batch => batch.analyzer.lint batch.files) =
      .ok (batches.map fun batch => ⟨batch.files.map batch.reported⟩) := by
    rw [mapM_eq_ok_iff, List.map_map]
    apply List.map_congr_left
    exact fun batch mem => lint_files (completes batch mem)
  have files := (files_concat (batches.map fun batch => ⟨batch.files.map batch.reported⟩)).trans
    (List.flatMap_map _ _ _)
  exact bind_eq_ok_iff.mpr ⟨_, linted, congrArg (fun files => Except.ok (RunReport.mk files)) files⟩

theorem exists_lintBatches_iff : (∃ run, lintBatches batches = .ok run) ↔
    ∀ batch ∈ batches, batch.analyzer.Completes batch.files := by
  constructor
  · rintro ⟨run, linted⟩ batch mem
    obtain ⟨runs, each, -⟩ := bind_eq_ok_iff.mp linted
    exact Analyzer.completes_iff.mpr (exists_ok_of_mem (mapM_eq_ok_iff.mp each) mem)
  · exact fun completes => ⟨_, lintBatches_eq completes⟩

theorem zip_lintReport (batches : List Batch) :
    (lintReport batches).files.zip (filesOf batches) =
      batches.flatMap fun batch => batch.files.map fun file => (batch.reported file, file) :=
  zip_filesOf reported

theorem length_lintReport (batches : List Batch) :
    (lintReport batches).files.length = (filesOf batches).length := by
  simp only [lintReport, filesOf, List.length_flatMap, List.length_map]

theorem path_reported (batch : Batch) (file : SourceFile) :
    (batch.reported file).path = file.path := by
  unfold reported Analyzer.lintWith
  cases file.outline <;> rfl

theorem violations_reported (batch : Batch) (file : SourceFile) :
    (batch.reported file).violations = batch.violationsOf file := by
  unfold reported violationsOf Analyzer.lintWith
  cases file.outline <;> rfl

theorem listed_lintReport (batches : List Batch) :
    (lintReport batches).listed (filesOf batches) = listedOfAll batches := by
  rw [RunReport.listed, zip_lintReport, List.flatMap_assoc]
  apply List.flatMap_congr
  intro batch _
  rw [List.flatMap_map]
  simp only [path_reported, violations_reported]

/-- What is made of each listed violation is made of its entry. -/
theorem map_listedOfAll {α : Type} {shown : Listed → α} {said : Entry → α}
    (same : ∀ file v, shown ⟨displayName file.path, file, v⟩ = said (.ofViolation file v))
    (batches : List Batch) : (listedOfAll batches).map shown = (entries batches).map said := by
  simp only [listedOfAll, entries, List.map_flatMap, List.map_map, Function.comp_def, same]

theorem skippedFiles_lintReport (batches : List Batch) :
    (lintReport batches).skippedFiles = unparsed batches := by
  rw [RunReport.skippedFiles, lintReport, unparsed, filesOf, List.filterMap_flatMap,
    List.filterMap_flatMap]
  apply List.flatMap_congr
  intro batch _
  rw [List.filterMap_map]
  apply List.filterMap_congr
  intro file _
  simp only [Function.comp_apply, reported, Analyzer.lintWith]
  cases file.outline <;> rfl

theorem map_severity_violations (batches : List Batch) :
    (lintReport batches).violations.map Violation.severity
      = (entries batches).map Entry.severity := by
  rw [← RunReport.map_violation_listed (length_lintReport batches), listed_lintReport,
    List.map_map]
  exact map_listedOfAll (fun _ _ => rfl) batches

theorem count_lintReport (batches : List Batch) (severity : Severity) :
    (lintReport batches).count severity =
      (entries batches).countP fun entry => entry.severity == severity := by
  have counted := congrArg (List.countP (· == severity)) (map_severity_violations batches)
  rwa [List.countP_map, List.countP_map] at counted

theorem length_violations_lintReport (batches : List Batch) :
    (lintReport batches).violations.length = (entries batches).length := by
  simpa using congrArg List.length (map_severity_violations batches)

theorem lintExitCode_lintReport (batches : List Batch) (strict : Bool) :
    lintExitCode strict (lintReport batches) =
      if (∃ entry ∈ entries batches, entry.severity = .error) ∨
          strict = true ∧ entries batches ≠ [] then 2 else 0 := by
  have anError : (lintReport batches).hasViolationsAt .error = true ↔
      ∃ entry ∈ entries batches, entry.severity = .error := by
    rw [RunReport.hasViolationsAt_error, ← List.mem_map, ← List.mem_map, map_severity_violations]
  have anything : (lintReport batches).hasViolationsAt .warning = true ↔
      entries batches ≠ [] := by
    rw [RunReport.hasViolationsAt_warning, ← List.length_pos_iff, length_violations_lintReport,
      List.length_pos_iff]
  unfold lintExitCode
  congr 1
  rw [eq_iff_iff]
  cases strict with
  | false =>
    rw [if_neg Bool.false_ne_true, anError]
    simp
  | true =>
    rw [if_pos rfl, anything]
    refine ⟨fun listed => .inr ⟨rfl, listed⟩, Or.rec ?_ And.right⟩
    rintro ⟨entry, mem, -⟩
    exact List.ne_nil_of_mem mem

theorem text_lintReport (batches : List Batch) (colored : Bool) :
    (lintReport batches).list? .text colored (filesOf batches) = some (String.join
      (((lintReport batches).lines colored (entries batches) (unparsed batches)).map
        (· ++ "\n"))) := by
  have shown : (listedOfAll batches).flatMap (RunReport.textOf colored)
      = (entries batches).flatMap (Entry.lines colored) := by
    rw [List.flatMap_def, List.flatMap_def]
    exact congrArg _ (map_listedOfAll (fun file v => Entry.textOf_eq_lines file v colored) _)
  rw [RunReport.list?, RunReport.listText, listed_lintReport, skippedFiles_lintReport, shown]
  rfl

theorem compact_lintReport (batches : List Batch) (colored : Bool) :
    (lintReport batches).list? .compact colored (filesOf batches) =
      some (String.join ((entries batches).map fun entry => entry.line ++ "\n")) := by
  rw [RunReport.list?, RunReport.listCompact, RunReport.unlines, listed_lintReport,
    map_listedOfAll Entry.compactOf_eq_line, List.map_map]
  rfl

theorem json_lintReport (batches : List Batch) (colored : Bool) :
    ∃ listing, (lintReport batches).list? .json colored (filesOf batches) = some listing ∧
      listing = ((lintReport batches).document (entries batches) (unparsed batches)).pretty 0
        ++ "\n" ∧
      Json.parse? listing =
        some ((lintReport batches).document (entries batches) (unparsed batches)) := by
  have shown : (lintReport batches).listingJson (filesOf batches) =
      (lintReport batches).document (entries batches) (unparsed batches) := by
    rw [RunReport.listingJson, listed_lintReport, skippedFiles_lintReport,
      map_listedOfAll Entry.jsonOf_eq_object]
    rfl
  refine ⟨_, rfl, ?_⟩
  rw [RunReport.listJson, shown]
  exact ⟨rfl, Json.parse?_pretty (RunReport.whole_document _ _ _)⟩

/-- A run over several batches has one report for each file, in the order of the files, and lists
what the rules report batch by batch, file by file and rule by rule, each violation once and at its
place in its own file. The counts and the exit code are those of what is listed. -/
theorem lint_lists_every_violation (batches : List Batch) :
    ((∃ run, lintBatches batches = .ok run) ↔
      ∀ batch ∈ batches, batch.analyzer.Completes batch.files) ∧
    ∀ run, lintBatches batches = .ok run →
      run.files.length = (filesOf batches).length ∧
      (run.files.zip (filesOf batches) =
        batches.flatMap fun batch => batch.files.map fun file => (batch.reported file, file)) ∧
      run.listed (filesOf batches) = listedOfAll batches ∧
      (∀ colored, run.list? .text colored (filesOf batches) = some (String.join
        ((run.lines colored (entries batches) (unparsed batches)).map (· ++ "\n")))) ∧
      (∀ colored, run.list? .compact colored (filesOf batches) = some (String.join
        ((entries batches).map fun entry => entry.line ++ "\n"))) ∧
      (∀ colored, ∃ listing, run.list? .json colored (filesOf batches) = some listing ∧
        listing = (run.document (entries batches) (unparsed batches)).pretty 0 ++ "\n" ∧
        Json.parse? listing = some (run.document (entries batches) (unparsed batches))) ∧
      (∀ severity, run.count severity =
        (entries batches).countP fun entry => entry.severity == severity) ∧
      run.count .error + run.count .warning = (entries batches).length ∧
      run.checked + run.skipped = (filesOf batches).length ∧
      (unparsed batches).length = run.skipped ∧
      (∀ strict, lintExitCode strict run =
        if (∃ entry ∈ entries batches, entry.severity = .error) ∨
          strict = true ∧ entries batches ≠ [] then 2 else 0) ∧
      ∀ w parser named paths, ofPaths w parser named paths = .ok batches →
        ∀ format strict listing, run.list? format true (filesOf batches) = some listing →
          (Invocation.mk named (.lint paths format strict)).run w parser =
            ⟨lintExitCode strict run, listing, none, w⟩ := by
  refine ⟨exists_lintBatches_iff, fun run linted => ?_⟩
  obtain rfl := Except.ok.inj
    (linted.symm.trans (lintBatches_eq (exists_lintBatches_iff.mp ⟨run, linted⟩)))
  refine ⟨length_lintReport batches, zip_lintReport batches, listed_lintReport batches,
    text_lintReport batches, compact_lintReport batches, json_lintReport batches,
    count_lintReport batches, ?_, ?_, ?_, lintExitCode_lintReport batches, ?_⟩
  · rw [RunReport.count_error_add_count_warning, length_violations_lintReport]
  · rw [RunReport.checked_add_skipped, length_lintReport]
  · rw [← skippedFiles_lintReport, RunReport.length_skippedFiles]
  · intro w parser named paths loaded format strict listing shown
    simp only [Invocation.run, Command.lintFiles, loaded, Except.mapError, bind, Except.bind,
      linted, shown]
    rfl

/-- A text whose first line and whose place for a declaration take more bytes than characters. -/
def accentedFunction : SourceFile where
  path := some "f.swift"
  text := "// é\n/*é*/ public func f()"
  parser _ := .ok ⟨⟨.sourceFile, none, 0, 31, .internal, none, [], [
    ⟨.freeFunction, some "f", 13, 18, .public, none, [], []⟩]⟩, []⟩

/-- A batch with a file that cannot be parsed, and one whose rule reports errors. -/
def warningsThenErrors : List Batch :=
  [⟨⟨Rule.builtin, false⟩, [Analyzer.unreadable, accentedFunction]⟩,
    ⟨⟨[(VisibilityOrder.mk .error).toRule], false⟩, [VisibilityOrder.mixedFile]⟩]

theorem lint_lists_every_violation_warningsThenErrors :
    ∃ run listing, lintBatches warningsThenErrors = .ok run ∧
      run.list? .text true (filesOf warningsThenErrors) = some (
        "missing_docs Missing Docs at f.swift:2:7\n" ++
        "  \x1b[33mwarning\x1b[0m: Public declarations should be documented.\n\n" ++
        "function_visibility_order Function Visibility Order at <input>:1:1\n" ++
        "  \x1b[31merror\x1b[0m: " ++ VisibilityOrder.info.description ++ "\n\n" ++
        "function_visibility_order Function Visibility Order at <input>:2:1\n" ++
        "  \x1b[31merror\x1b[0m: " ++ VisibilityOrder.info.description ++ "\n\n" ++
        "Broken.swift: skipped (unexpected end at offset 8)\n" ++
        "\x1b[31mFound 2 error(s), 1 warning(s) in 2 file(s), 1 skipped\x1b[0m\n") ∧
      run.list? .compact false (filesOf warningsThenErrors) = some (
        "f.swift:2:7: warning [missing_docs] Public declarations should be documented.\n" ++
        "<input>:1:1: error [function_visibility_order] " ++ VisibilityOrder.info.description ++
        "\n<input>:2:1: error [function_visibility_order] " ++ VisibilityOrder.info.description ++
        "\n") ∧
      run.list? .json false (filesOf warningsThenErrors) = some listing ∧
      Json.parse? listing = some (.object [
        ("files_checked", .integer 2), ("files_skipped", .integer 1),
        ("errors", .integer 2), ("warnings", .integer 1),
        ("violations", .array [
          .object [("file", .string "f.swift"),
            ("line", .integer 2), ("column", .integer 7), ("offset", .integer 13),
            ("severity", .string "warning"),
            ("rule_id", .string "missing_docs"), ("rule_name", .string "Missing Docs"),
            ("reason", .string "Public declarations should be documented.")],
          .object [("file", .string "<input>"),
            ("line", .integer 1), ("column", .integer 1), ("offset", .integer 0),
            ("severity", .string "error"), ("rule_id", .string "function_visibility_order"),
            ("rule_name", .string "Function Visibility Order"),
            ("reason", .string VisibilityOrder.info.description)],
          .object [("file", .string "<input>"),
            ("line", .integer 2), ("column", .integer 1), ("offset", .integer 23),
            ("severity", .string "error"), ("rule_id", .string "function_visibility_order"),
            ("rule_name", .string "Function Visibility Order"),
            ("reason", .string VisibilityOrder.info.description)]]),
        ("skipped", .array [.object [("file", .string "Broken.swift"),
          ("reason", .string "unexpected end at offset 8")]])]) ∧
      run.count .error + run.count .warning = 3 ∧
      run.checked + run.skipped = 3 ∧ (unparsed warningsThenErrors).length = 1 ∧
      lintExitCode false run = 2 := by
  have linted : lintBatches warningsThenErrors = .ok (lintReport warningsThenErrors) := by
    apply lintBatches_eq
    simp only [warningsThenErrors, List.forall_mem_cons]
    exact ⟨nofun, nofun, nofun⟩
  have said : entries warningsThenErrors = [
      ⟨"f.swift", ⟨2, 7, 13⟩, .warning, ⟨"missing_docs", "Missing Docs"⟩,
        "Public declarations should be documented."⟩,
      ⟨"<input>", ⟨1, 1, 0⟩, .error, VisibilityOrder.info.reporter,
        VisibilityOrder.info.description⟩,
      ⟨"<input>", ⟨2, 1, 23⟩, .error, VisibilityOrder.info.reporter,
        VisibilityOrder.info.description⟩] := by decide +kernel
  have skipped : unparsed warningsThenErrors =
      [("Broken.swift", "unexpected end at offset 8")] := by decide +kernel
  have counts : (lintReport warningsThenErrors).checked = 2 ∧
      (lintReport warningsThenErrors).skipped = 1 ∧
      (lintReport warningsThenErrors).count .error = 2 ∧
      (lintReport warningsThenErrors).count .warning = 1 := by decide +kernel
  obtain ⟨-, -, -, text, compact, json, -, found, files, -, exitCode, -⟩ :=
    (lint_lists_every_violation warningsThenErrors).2 _ linted
  obtain ⟨listing, listed, -, read⟩ := json false
  refine ⟨_, listing, linted, (text true).trans ?_, (compact false).trans ?_, listed,
    read.trans ?_, found.trans ?_, files, ?_, (exitCode false).trans ?_⟩
  · decide +kernel
  · decide +kernel
  · rw [RunReport.document, said, skipped, counts.1, counts.2.1, counts.2.2.1, counts.2.2.2]
    rfl
  all_goals decide +kernel

end Batch

end SwiftStyle
