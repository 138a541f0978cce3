import SwiftStyle.Proofs.Rule.LineLength.Ladder
import SwiftStyle.Proofs.Rule.LineLength.Reports
import SwiftStyle.Proofs.Rule.MissingDocs.Severities

/-!
The rules that grade what they find report the highest severity that applies, whatever sections they
are given: their thresholds stay in the order of the severities, so that the last one that is passed
is one of the highest.
-/

namespace SwiftStyle

open Threshold

/-- The limits for lines are one or two, of which the second is an error, and all thresholds are in
the order of their severities. So a line is reported, once, exactly if it exceeds a limit, a longer
line never more mildly, and what lacks documentation has the highest severity of its level. -/
theorem severities_are_highest {first lineLength : LineLength} {missingDocs : MissingDocs}
    (new : first.IsNew) (configured : Reached LineLength.configure first lineLength)
    (configured' : Reached MissingDocs.configure .default missingDocs) :
    LineLength.IsLadder lineLength.thresholds ∧
    (Ordered lineLength.thresholds ∧
      ∀ passed, Grades lineLength.thresholds passed (escalate lineLength.thresholds passed)) ∧
    (Ordered missingDocs.thresholds ∧
      ∀ passed, Grades missingDocs.thresholds passed (escalate missingDocs.thresholds passed)) ∧
    (∀ file, ∃ reported, lineLength.Reports file reported ∧
      ∀ line ∈ Text.lines file.text.toList,
        ((∃ v, (line, v) ∈ reported) ↔
          ∃ t ∈ lineLength.thresholds, t.value < LineLength.length line) ∧
        ∀ v shorter, (shorter, v) ∈ reported → LineLength.length shorter ≤ LineLength.length line →
          ∃ w, (line, w) ∈ reported ∧ v.severity ≤ w.severity) ∧
    ∀ file index, ∀ v ∈ missingDocs.violations file index, ∃ path d level,
      file.declarationAt? path = some d ∧ missingDocs.TellsOf file d v ∧
      d.access.level? = some level ∧ v.reason = MissingDocs.reason level ∧
      missingDocs.IsHighest level v.severity := by
  have ladder := LineLength.isLadder_of_reached new configured
  have ordered := MissingDocs.ordered_of_reached configured'
  refine ⟨ladder, ⟨ladder.ordered, ladder.ordered.grades⟩, ⟨ordered, ordered.grades⟩, ?_, ?_⟩
  · intro file
    obtain ⟨reported, reports⟩ := LineLength.exists_reports ladder.ordered file
    refine ⟨reported, reports, fun line mem => ⟨reports.exists_iff ladder.ordered mem, ?_⟩⟩
    intro v shorter told longer
    exact reports.of_longer ladder.ordered told mem longer
  · intro file index v mem
    obtain ⟨path, d, inside, -, tells⟩ := MissingDocs.exists_tellsOf_of_mem mem
    obtain ⟨level, graded, quoted, highest⟩ := tells.isHighest ordered
    exact ⟨path, d, level, inside, tells, graded, quoted, highest⟩

/-- The order of the severities does not need that of the limits, and a level may be listed twice. -/
theorem severities_are_highest_descending :
    LineLength.default.IsNew ∧ ∃ lineLength missingDocs,
      Reached LineLength.configure .default lineLength ∧
      Reached MissingDocs.configure .default missingDocs ∧
      lineLength.thresholds = [⟨.warning, 100⟩, ⟨.error, 50⟩] ∧
      missingDocs.thresholds = [⟨.warning, .public⟩, ⟨.error, .public⟩, ⟨.error, .internal⟩] ∧
      (∀ file, ∃ reported, lineLength.Reports file reported) ∧
      ∀ file index, ∀ v ∈ missingDocs.violations file index, v.severity = .error := by
  have lowered : LineLength.default.configure ⟨none, [("error", .integer 50)]⟩
      = .ok ⟨[⟨.warning, 100⟩, ⟨.error, 50⟩]⟩ := by decide
  have listed : MissingDocs.default.configure ⟨none,
      [("error", .array [.string "public", .string "internal"]),
        ("warning", .array [.string "public"])]⟩
      = .ok ⟨[⟨.warning, .public⟩, ⟨.error, .public⟩, ⟨.error, .internal⟩]⟩ := by decide
  have lines : Reached LineLength.configure .default _ := .step .start lowered
  have docs : Reached MissingDocs.configure .default _ := .step .start listed
  obtain ⟨-, -, -, reports, highest⟩ := severities_are_highest .default lines docs
  refine ⟨.default, _, _, lines, docs, rfl, rfl, ?_, ?_⟩
  · intro file
    obtain ⟨reported, reports, -⟩ := reports file
    exact ⟨reported, reports⟩
  · intro file index v mem
    obtain ⟨-, -, level, -, -, -, -, known, highest⟩ := highest file index v mem
    have severe : ⟨.error, level⟩ ∈ [Threshold.mk .warning AccessLevel.public,
        ⟨.error, .public⟩, ⟨.error, .internal⟩] := by
      simp only [List.mem_cons, Threshold.mk.injEq] at known ⊢
      grind
    exact Severity.error_le_iff.mp (highest _ severe rfl)

end SwiftStyle
