import SwiftStyle.Proofs.Config.Reached
import SwiftStyle.Proofs.Results
import SwiftStyle.Proofs.Rule.Escalation
import SwiftStyle.Proofs.Rule.MissingDocs.Reports

/-!
The severities of the rule for documentation under every configuration. Levels that are listed as
warnings come before those that are listed as errors, and an override makes all severities one; so a
level that is listed twice has the higher one of its severities.
-/

namespace SwiftStyle.MissingDocs

variable {rule next : MissingDocs} {s : Section} {file : SourceFile} {index : DeclarationIndex}
  {d : Declaration} {v : Violation}

theorem severity_of_levels {key : String} {severity : Severity}
    {thresholds : List (Threshold AccessLevel)} (listed : levels s key severity = .ok thresholds) :
    ∀ t ∈ thresholds, t.severity = severity := by
  obtain ⟨words?, -, read⟩ := bind_eq_ok_iff.mp listed
  cases words? with
  | none =>
    cases read
    exact fun t mem => absurd mem List.not_mem_nil
  | some words =>
    intro t mem
    obtain ⟨word, -, known⟩ := exists_of_mapM_eq_ok read t mem
    unfold threshold? at known
    split at known
    · cases known
      rfl
    · cases known

/-- All that a section does: the levels that it lists, if any, replace those of the rule; then one
severity may override all others. -/
theorem exists_of_configure (accepted : rule.configure s = .ok next) :
    ∃ warnings errors base, levels s "warning" .warning = .ok warnings ∧
      levels s "error" .error = .ok errors ∧
      base = (if s.options.any fun (key, _) => key == "warning" || key == "error" then
        warnings ++ errors else rule.thresholds) ∧
      (s.severity = none ∧ next.thresholds = base ∨
        ∃ severity, s.severity = some severity ∧
          next.thresholds = base.map fun threshold => { threshold with severity }) := by
  unfold configure at accepted
  obtain ⟨-, -, accepted⟩ := bind_eq_ok_iff.mp accepted
  obtain ⟨warnings, isWarnings, accepted⟩ := bind_eq_ok_iff.mp accepted
  obtain ⟨errors, isErrors, accepted⟩ := bind_eq_ok_iff.mp accepted
  cases accepted
  refine ⟨warnings, errors, _, isWarnings, isErrors, rfl, ?_⟩
  cases override : s.severity with
  | none => exact .inl ⟨rfl, rfl⟩
  | some severity => exact .inr ⟨severity, rfl, rfl⟩

theorem ordered_configure (ordered : Threshold.Ordered rule.thresholds)
    (accepted : rule.configure s = .ok next) : Threshold.Ordered next.thresholds := by
  obtain ⟨warnings, errors, base, isWarnings, isErrors, isBase, override⟩ :=
    exists_of_configure accepted
  have warned := severity_of_levels isWarnings
  have erred := severity_of_levels isErrors
  have baseOrdered : Threshold.Ordered base := by
    rw [isBase]
    split
    · -- all warnings stand before all errors
      refine List.pairwise_append.mpr
        ⟨Threshold.ordered_of_forall warned, Threshold.ordered_of_forall erred, ?_⟩
      intro t mem u _
      rw [warned t mem]
      exact Severity.warning_le u.severity
    · exact ordered
  rcases override with ⟨-, same⟩ | ⟨severity, -, same⟩
  · rwa [same]
  · have overridden : ∀ t ∈ next.thresholds, t.severity = severity := by
      rw [same]
      intro t mem
      obtain ⟨u, -, rfl⟩ := List.mem_map.mp mem
      rfl
    exact Threshold.ordered_of_forall overridden

theorem ordered_of_reached (reached : Reached configure .default rule) :
    Threshold.Ordered rule.thresholds := by
  apply reached.invariant (P := fun rule => Threshold.Ordered rule.thresholds)
  · exact List.pairwise_singleton _ _
  · exact fun ordered accepted => ordered_configure ordered accepted

/-- The highest severity that a rule has for a level. -/
structure IsHighest (rule : MissingDocs) (level : AccessLevel) (severity : Severity) : Prop where
  listed : ⟨severity, level⟩ ∈ rule.thresholds
  highest : ∀ t ∈ rule.thresholds, t.value = level → t.severity ≤ severity

theorem TellsOf.isHighest (tells : rule.TellsOf file d v)
    (ordered : Threshold.Ordered rule.thresholds) :
    ∃ level, d.access.level? = some level ∧ v.reason = reason level ∧
      rule.IsHighest level v.severity := by
  obtain ⟨before, t, after, split, level, others, severity, quoted⟩ := tells.graded
  refine ⟨t.value, level, quoted, ?_, ?_⟩
  · rw [split, severity]
    exact List.mem_append_right before List.mem_cons_self
  · intro u mem same
    rw [split] at ordered mem
    rw [severity]
    apply ordered.severity_le mem
    intro later
    exact others u later (same ▸ level)

theorem exists_tellsOf_of_mem (mem : v ∈ rule.violations file index) :
    ∃ path d, file.declarationAt? path = some d ∧
      rule.Undocumented index (file.clauseAround path) d ∧ rule.TellsOf file d v := by
  cases parsed : file.root? with
  | none =>
    rw [violations_of_unparsed parsed] at mem
    exact absurd mem List.not_mem_nil
  | some root =>
    rw [violations_of_root? parsed] at mem
    obtain ⟨path, -, found⟩ := List.mem_filterMap.mp mem
    exact ⟨path, at?_eq_some_iff.mp found⟩

end SwiftStyle.MissingDocs
