import SwiftStyle.Proofs.Analyzer.Companions

/-!
Files that cannot be parsed. They add nothing to the index, so a run that passes over them says of
every other file what it says without them. A run that does not pass over them ends with the first
one, and ends before any file is replaced.
-/

namespace SwiftStyle

def SourceFile.Parses (file : SourceFile) : Prop := ∃ outline, file.outline = .ok outline

theorem SourceFile.not_parses_iff {file : SourceFile} :
    ¬file.Parses ↔ ∃ failure, file.outline = .error failure := by
  unfold Parses
  cases file.outline with
  | error failure => simp
  | ok outline => simp

theorem SourceFile.root?_of_not_parses {file : SourceFile} (fails : ¬file.Parses) :
    file.root? = none := by
  obtain ⟨failure, unparsed⟩ := not_parses_iff.mp fails
  rw [root?, unparsed]

namespace Analyzer

/-- Whether an error is about the first of some files that cannot be parsed. -/
def NamesFirstFailure (files : List SourceFile) (error : AnalyzerError) : Prop :=
  ∃ front bad back failure, files = front ++ bad :: back ∧ (∀ file ∈ front, file.Parses) ∧
    bad.outline = .error failure ∧ error = .unparsable bad.path failure

theorem firstFailure?_eq_some_iff {files : List SourceFile} {error : AnalyzerError} :
    firstFailure? files = some error ↔ NamesFirstFailure files error := by
  unfold firstFailure? NamesFirstFailure
  rw [List.findSome?_eq_some_iff]
  constructor
  · rintro ⟨front, bad, back, split, found, before⟩
    cases unparsed : bad.outline with
    | ok outline => simp [unparsed] at found
    | error failure =>
      simp only [unparsed, Option.some.injEq] at found
      refine ⟨front, bad, back, failure, split, fun file hfile => ?_, unparsed, found.symm⟩
      have passed := before file hfile
      cases parsed : file.outline with
      | ok outline => exact ⟨outline, parsed⟩
      | error failure => simp [parsed] at passed
  · rintro ⟨front, bad, back, failure, split, before, unparsed, rfl⟩
    refine ⟨front, bad, back, split, by simp [unparsed], fun file hfile => ?_⟩
    obtain ⟨outline, parsed⟩ := before file hfile
    simp [parsed]

theorem firstFailure?_eq_none_iff {files : List SourceFile} :
    firstFailure? files = none ↔ ∀ file ∈ files, file.Parses := by
  unfold firstFailure?
  rw [List.findSome?_eq_none_iff]
  refine forall₂_congr fun file _ => ?_
  unfold SourceFile.Parses
  cases file.outline <;> simp

theorem exists_namesFirstFailure_iff {files : List SourceFile} :
    (∃ error, NamesFirstFailure files error) ↔ ∃ file ∈ files, ¬file.Parses := by
  simp only [← firstFailure?_eq_some_iff, ← Option.isSome_iff_exists,
    Option.isSome_iff_ne_none, ne_eq, firstFailure?_eq_none_iff]
  push Not
  rfl

/-- A file that cannot be parsed adds nothing to the index. -/
theorem indexOf_append_cons {front back : List SourceFile} {bad : SourceFile}
    (fails : ¬bad.Parses) : indexOf (front ++ bad :: back) = indexOf (front ++ back) := by
  unfold indexOf
  rw [List.filterMap_append, List.filterMap_cons_none (SourceFile.root?_of_not_parses fails),
    ← List.filterMap_append]

/-- What the report on a file says of how the file was parsed. -/
structure TellsOf (file : SourceFile) (report : FileReport) : Prop where
  path : report.path = file.path
  skipped : report.isSkipped = true ↔ ¬file.Parses
  nothing : ¬file.Parses → report.violations = [] ∧ report.corrections = []

theorem lintWith_tellsOf (analyzer : Analyzer) (index : DeclarationIndex) (file : SourceFile) :
    TellsOf file (analyzer.lintWith index file) := by
  unfold lintWith
  cases parsed : file.outline with
  | error failure =>
    have fails := SourceFile.not_parses_iff.mpr ⟨failure, parsed⟩
    exact ⟨rfl, iff_of_true rfl fails, fun _ => ⟨rfl, rfl⟩⟩
  | ok outline =>
    have parses : file.Parses := ⟨outline, parsed⟩
    exact ⟨rfl, iff_of_false Bool.false_ne_true (not_not_intro parses), absurd parses⟩

theorem correctWith_tellsOf (analyzer : Analyzer) (index : DeclarationIndex)
    (file : SourceFile) :
    TellsOf file (analyzer.correctWith index file).2 ∧
      (¬file.Parses → (analyzer.correctWith index file).1 = file) := by
  unfold correctWith
  cases parsed : file.outline with
  | error failure =>
    have fails := SourceFile.not_parses_iff.mpr ⟨failure, parsed⟩
    exact ⟨⟨rfl, iff_of_true rfl fails, fun _ => ⟨rfl, rfl⟩⟩, fun _ => rfl⟩
  | ok outline =>
    have parses : file.Parses := ⟨outline, parsed⟩
    exact ⟨⟨rfl, iff_of_false Bool.false_ne_true (not_not_intro parses), absurd parses⟩,
      absurd parses⟩

/-- Correcting files where they are kept: all of them are indexed, and only then replaced. -/
def correctInPlace (analyzer : Analyzer) :
    ExceptT AnalyzerError (StateM (List SourceFile)) RunReport := do
  let index ← ExceptT.mk do return analyzer.index (← get)
  modifyGet fun files =>
    let results := files.map (analyzer.correctWith index)
    (⟨results.map Prod.snd⟩, results.map Prod.fst)

theorem run_correctInPlace (analyzer : Analyzer) (files : List SourceFile) :
    (analyzer.correctInPlace.run.run files).run =
      match analyzer.correct files with
      | .ok (corrected, run) => (.ok run, corrected)
      | .error error => (.error error, files) := by
  simp only [correctInPlace, correct, ExceptT.run_bind, ExceptT.run_mk, StateT.run_bind,
    StateT.run_pure, StateT.run_get, pure_bind]
  cases analyzer.index files with
  | error error => rfl
  | ok index => rfl

theorem correct_of_index {analyzer : Analyzer} {files : List SourceFile}
    {index : DeclarationIndex} (indexed : analyzer.index files = .ok index) :
    analyzer.correct files =
      .ok ((files.map (analyzer.correctWith index)).map Prod.fst,
        ⟨(files.map (analyzer.correctWith index)).map Prod.snd⟩) := by
  rw [correct, indexed]
  rfl

theorem index_eq_error_iff {analyzer : Analyzer} (strict : analyzer.failsOnParseError = true)
    {files : List SourceFile} {error : AnalyzerError} :
    analyzer.index files = .error error ↔ NamesFirstFailure files error := by
  unfold index
  rw [strict, if_pos rfl, ← firstFailure?_eq_some_iff]
  cases firstFailure? files <;> simp

theorem lint_eq_error_iff {analyzer : Analyzer} {files : List SourceFile}
    {error : AnalyzerError} :
    analyzer.lint files = .error error ↔ analyzer.index files = .error error := by
  unfold lint
  cases analyzer.index files <;> simp [bind, Except.bind, pure, Except.pure]

theorem correct_eq_error_iff {analyzer : Analyzer} {files : List SourceFile}
    {error : AnalyzerError} :
    analyzer.correct files = .error error ↔ analyzer.index files = .error error := by
  unfold correct
  cases analyzer.index files <;> simp [bind, Except.bind, pure, Except.pure]

/-- A run that passes over files that cannot be parsed reports on every file in order, skips
exactly those, and says and does the same with the other files if one of those is taken away. A
run that does not pass over them fails exactly if there is one; it names the first, and the files
stay as they are. -/
theorem failures_isolated (analyzer : Analyzer) (files : List SourceFile) :
    (analyzer.failsOnParseError = false →
      ∃ (report : SourceFile → FileReport) (corrected : SourceFile → SourceFile × FileReport),
        analyzer.lint files = .ok ⟨files.map report⟩ ∧
        analyzer.correct files =
          .ok (files.map fun file => (corrected file).1, ⟨files.map fun file => (corrected file).2⟩) ∧
        (∀ file, TellsOf file (report file)) ∧
        (∀ file, TellsOf file (corrected file).2 ∧ (¬file.Parses → (corrected file).1 = file)) ∧
        ∀ front bad back, files = front ++ bad :: back → ¬bad.Parses →
          analyzer.lint (front ++ back) = .ok ⟨(front ++ back).map report⟩ ∧
          analyzer.correct (front ++ back) =
            .ok ((front ++ back).map fun file => (corrected file).1,
              ⟨(front ++ back).map fun file => (corrected file).2⟩)) ∧
    (analyzer.failsOnParseError = true →
      ((∃ error, analyzer.lint files = .error error) ↔ ∃ file ∈ files, ¬file.Parses) ∧
      ((∃ error, analyzer.correct files = .error error) ↔ ∃ file ∈ files, ¬file.Parses) ∧
      (∀ error, analyzer.lint files = .error error ↔ NamesFirstFailure files error) ∧
      (∀ error, analyzer.correct files = .error error ↔ NamesFirstFailure files error) ∧
      ∀ error, NamesFirstFailure files error →
        (analyzer.correctInPlace.run.run files).run = (.error error, files)) := by
  constructor
  · intro lenient
    refine ⟨analyzer.lintWith (indexOf files), analyzer.correctWith (indexOf files),
      lint_of_lenient lenient files, ?_, lintWith_tellsOf analyzer _,
      correctWith_tellsOf analyzer _, ?_⟩
    · rw [correct_of_index (index_of_lenient lenient files), List.map_map, List.map_map]
      rfl
    · rintro front bad back rfl fails
      rw [indexOf_append_cons fails]
      refine ⟨lint_of_lenient lenient _, ?_⟩
      rw [correct_of_index (index_of_lenient lenient _), List.map_map, List.map_map]
      rfl
  · intro strict
    have lints (error : AnalyzerError) :
        analyzer.lint files = .error error ↔ NamesFirstFailure files error :=
      lint_eq_error_iff.trans (index_eq_error_iff strict)
    have corrects (error : AnalyzerError) :
        analyzer.correct files = .error error ↔ NamesFirstFailure files error :=
      correct_eq_error_iff.trans (index_eq_error_iff strict)
    refine ⟨?_, ?_, lints, corrects, fun error named => ?_⟩
    · rw [← exists_namesFirstFailure_iff]
      exact exists_congr lints
    · rw [← exists_namesFirstFailure_iff]
      exact exists_congr corrects
    · rw [run_correctInPlace, (corrects error).mpr named]

/-- A file that cannot be parsed. -/
def unreadable : SourceFile :=
  ⟨some "Broken.swift", "struct \x7b", fun _ => .error ⟨"unexpected end", 8⟩⟩

theorem failures_isolated_unreadable :
    (∃ report : SourceFile → FileReport,
      lint ⟨Rule.builtin, false⟩ [conformer, unreadable, requirement] =
        .ok ⟨[report conformer, report unreadable, report requirement]⟩ ∧
      lint ⟨Rule.builtin, false⟩ [conformer, requirement] =
        .ok ⟨[report conformer, report requirement]⟩ ∧
      (report unreadable).isSkipped = true ∧ (report conformer).isSkipped = false) ∧
    ((correctInPlace ⟨Rule.builtin, true⟩).run.run [conformer, unreadable, requirement]).run =
      (.error (.unparsable (some "Broken.swift") ⟨"unexpected end", 8⟩),
        [conformer, unreadable, requirement]) := by
  have fails : ¬unreadable.Parses := SourceFile.not_parses_iff.mpr ⟨_, rfl⟩
  have parses : conformer.Parses := ⟨_, rfl⟩
  constructor
  · obtain ⟨report, corrected, lints, -, tells, -, without⟩ :=
      (failures_isolated ⟨Rule.builtin, false⟩ [conformer, unreadable, requirement]).1 rfl
    obtain ⟨fewer, -⟩ := without [conformer] unreadable [requirement] rfl fails
    refine ⟨report, lints, fewer, (tells unreadable).skipped.mpr fails, ?_⟩
    exact Bool.eq_false_iff.mpr fun skipped => (tells conformer).skipped.mp skipped parses
  · refine (failures_isolated ⟨Rule.builtin, true⟩
      [conformer, unreadable, requirement]).2 rfl |>.2.2.2.2 _ ?_
    refine ⟨[conformer], unreadable, [requirement], _, rfl, fun file hfile => ?_, rfl, rfl⟩
    rwa [List.mem_singleton.mp hfile]

end Analyzer

end SwiftStyle
