import SwiftStyle.Proofs.Rule.Escalation
import SwiftStyle.Proofs.Text.Partition
import SwiftStyle.Rule.LineLength

/-!
What the rule for line lengths reports, as long as its limits are in the order of their severities:
each line that exceeds a limit, once and in the order of the lines, with the highest severity among
the limits that it exceeds.
-/

namespace SwiftStyle.LineLength

variable {rule : LineLength} {file : SourceFile} {line line' : Text.Line} {v : Violation}
  {lowest : Threshold Nat} {rest : List (Threshold Nat)}

/-- The length that a line is measured by. -/
def length (line : Text.Line) : Nat := Text.Cluster.count line.content

/-- A violation that tells of a line: with the highest severity among the limits that the line
exceeds, quoting the lowest limit. -/
structure TellsOf (rule : LineLength) (file : SourceFile) (line : Text.Line) (v : Violation) :
    Prop where
  reporter : v.rule = info.reporter
  location : v.location = file.located (.line line.number)
  graded : ∃ t ∈ rule.thresholds, t.value < length line ∧ v.severity = t.severity ∧
    ∀ u ∈ rule.thresholds, u.value < length line → u.severity ≤ t.severity
  quoted : ∃ lowest rest, rule.thresholds = lowest :: rest ∧
    v.reason = reason lowest.value (length line)

theorem violation?_eq_some_iff (ordered : Threshold.Ordered rule.thresholds)
    (ladder : rule.thresholds = lowest :: rest) :
    violation? rule.thresholds lowest.value file line = some v ↔ rule.TellsOf file line v := by
  have grades := ordered.grades fun limit => limit < length line
  unfold violation?
  change Option.map _ (Threshold.escalate rule.thresholds fun limit => limit < length line) = _ ↔ _
  rw [Option.map_eq_some_iff]
  constructor
  · rintro ⟨t, passed, rfl⟩
    rw [passed] at grades
    cases grades with
    | some mem exceeded highest =>
      simp only [decide_eq_true_eq] at exceeded highest
      exact ⟨rfl, rfl, ⟨t, mem, exceeded, rfl, highest⟩, lowest, rest, ladder, rfl⟩
  · intro tells
    obtain ⟨t, mem, exceeded, severity, highest⟩ := tells.graded
    obtain ⟨lowest', rest', ladder', reason⟩ := tells.quoted
    rw [ladder] at ladder'
    obtain ⟨rfl, rfl⟩ := List.cons.inj ladder'
    generalize found : Threshold.escalate rule.thresholds (fun limit => limit < length line)
      = escalated at grades
    cases grades with
    | none others => exact absurd exceeded (by simpa using others t mem)
    | @some t' mem' exceeded' highest' =>
      simp only [decide_eq_true_eq] at exceeded' highest'
      have same : t'.severity = v.severity := by
        rw [severity]
        exact Severity.le_antisymm (highest t' mem' exceeded') (highest' t mem exceeded)
      refine ⟨t', rfl, ?_⟩
      cases v
      cases tells.reporter
      cases tells.location
      cases same
      cases reason
      rfl

/-- A line is told of exactly if it exceeds one of the limits. -/
theorem exists_tellsOf_iff (ordered : Threshold.Ordered rule.thresholds) :
    (∃ v, rule.TellsOf file line v) ↔ ∃ t ∈ rule.thresholds, t.value < length line := by
  constructor
  · rintro ⟨v, tells⟩
    obtain ⟨t, mem, exceeded, -⟩ := tells.graded
    exact ⟨t, mem, exceeded⟩
  · rintro ⟨t, mem, exceeded⟩
    obtain ⟨lowest, rest, ladder⟩ := List.exists_cons_of_ne_nil (List.ne_nil_of_mem mem)
    cases found : violation? rule.thresholds lowest.value file line with
    | some v => exact ⟨v, (violation?_eq_some_iff ordered ladder).mp found⟩
    | none =>
      have none := Threshold.escalate_eq_none_iff.mp (Option.map_eq_none_iff.mp found) t mem
      exact absurd exceeded (of_decide_eq_false none)

/-- A longer line exceeds what a shorter one exceeds. -/
theorem TellsOf.of_longer (tells : rule.TellsOf file line v)
    (ordered : Threshold.Ordered rule.thresholds) (longer : length line ≤ length line') :
    ∃ v', rule.TellsOf file line' v' ∧ v.severity ≤ v'.severity := by
  obtain ⟨t, mem, exceeded, severity, -⟩ := tells.graded
  have exceeded' := Nat.lt_of_lt_of_le exceeded longer
  obtain ⟨v', tells'⟩ := (exists_tellsOf_iff ordered).mpr ⟨t, mem, exceeded'⟩
  obtain ⟨t', -, -, severity', highest⟩ := tells'.graded
  refine ⟨v', tells', ?_⟩
  rw [severity, severity']
  exact highest t mem exceeded'

theorem exists_violations_eq (ordered : Threshold.Ordered rule.thresholds) (file : SourceFile) :
    ∃ at? : Text.Line → Option Violation,
      rule.violations file = (Text.lines file.text.toList).filterMap at? ∧
      ∀ line v, at? line = some v ↔ rule.TellsOf file line v := by
  cases ladder : rule.thresholds with
  | nil =>
    refine ⟨fun _ => none, by simp [violations, ladder], ?_⟩
    intro line v
    constructor
    · intro impossible
      cases impossible
    · intro tells
      obtain ⟨t, mem, -⟩ := tells.graded
      exact absurd (ladder ▸ mem) List.not_mem_nil
  | cons lowest rest =>
    refine ⟨violation? rule.thresholds lowest.value file, by simp [violations, ladder], ?_⟩
    exact fun line v => violation?_eq_some_iff ordered ladder

theorem mem_violations_iff (ordered : Threshold.Ordered rule.thresholds) :
    v ∈ rule.violations file ↔
      ∃ line ∈ Text.lines file.text.toList, rule.TellsOf file line v := by
  obtain ⟨at?, same, told⟩ := exists_violations_eq ordered file
  simp only [same, List.mem_filterMap, told]

/-- The violations of a file with the lines that they tell of: those that exceed a limit, each once
and in ascending order. -/
structure Reports (rule : LineLength) (file : SourceFile) (reported : List (Text.Line × Violation)) :
    Prop where
  listed : reported.map Prod.snd = rule.violations file
  ascending : reported.Pairwise fun (line, _) (later, _) => line.number < later.number
  told : ∀ line v, (line, v) ∈ reported ↔
    line ∈ Text.lines file.text.toList ∧ rule.TellsOf file line v

theorem exists_reports (ordered : Threshold.Ordered rule.thresholds) (file : SourceFile) :
    ∃ reported, rule.Reports file reported := by
  obtain ⟨at?, same, told⟩ := exists_violations_eq ordered file
  refine ⟨(Text.lines file.text.toList).filterMap fun line => (at? line).map (line, ·), ?_, ?_, ?_⟩
  · rw [same, List.map_filterMap]
    simp only [Option.map_map]
    apply List.filterMap_congr
    intro line _
    exact Option.map_id'
  · apply (Text.lines_ascending file.text.toList).filterMap
    intro line later before first hfirst second hsecond
    obtain ⟨v, -, rfl⟩ := Option.map_eq_some_iff.mp hfirst
    obtain ⟨w, -, rfl⟩ := Option.map_eq_some_iff.mp hsecond
    exact before
  · intro line v
    rw [← told, List.mem_filterMap]
    constructor
    · rintro ⟨line', mem, found⟩
      obtain ⟨v', found, same⟩ := Option.map_eq_some_iff.mp found
      cases same
      exact ⟨mem, found⟩
    · rintro ⟨mem, found⟩
      exact ⟨line, mem, Option.map_eq_some_iff.mpr ⟨v, found, rfl⟩⟩

namespace Reports

variable {reported : List (Text.Line × Violation)}

theorem exists_iff (reports : rule.Reports file reported)
    (ordered : Threshold.Ordered rule.thresholds) (mem : line ∈ Text.lines file.text.toList) :
    (∃ v, (line, v) ∈ reported) ↔ ∃ t ∈ rule.thresholds, t.value < length line := by
  have exceeds : (∃ v, rule.TellsOf file line v) ↔ _ := exists_tellsOf_iff ordered
  rw [← exceeds]
  apply exists_congr
  intro v
  rw [reports.told]
  exact and_iff_right mem

theorem of_longer (reports : rule.Reports file reported)
    (ordered : Threshold.Ordered rule.thresholds) (mem : (line, v) ∈ reported)
    (there : line' ∈ Text.lines file.text.toList) (longer : length line ≤ length line') :
    ∃ v', (line', v') ∈ reported ∧ v.severity ≤ v'.severity := by
  obtain ⟨-, tells⟩ := (reports.told line v).mp mem
  obtain ⟨v', tells', severe⟩ := tells.of_longer ordered longer
  exact ⟨v', (reports.told line' v').mpr ⟨there, tells'⟩, severe⟩

end Reports

end SwiftStyle.LineLength
