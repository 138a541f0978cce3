import SwiftStyle.Proofs.Config.Reached
import SwiftStyle.Proofs.Results
import SwiftStyle.Proofs.Rule.Escalation
import SwiftStyle.Rule.LineLength

/-!
The limits of the rule for line lengths under every configuration: one limit, or two of which the
second is an error. A section replaces, moves and adds limits, but never leaves a third one or a
second one that is not an error.
-/

namespace SwiftStyle.LineLength

variable {first rule next : LineLength} {thresholds : List (Threshold Nat)} {s : Section}

/-- The rule as it is made, before any configuration. -/
inductive IsNew : LineLength → Prop
  | default : IsNew .default
  | ofLimits (warning error : Nat) : IsNew (.ofLimits warning error)

/-- One limit, or two of which the second is an error. -/
inductive IsLadder : List (Threshold Nat) → Prop
  | single (lowest : Threshold Nat) : IsLadder [lowest]
  | double (lowest : Threshold Nat) (limit : Nat) : IsLadder [lowest, ⟨.error, limit⟩]

namespace IsLadder

theorem ordered (ladder : IsLadder thresholds) : Threshold.Ordered thresholds := by
  cases ladder with
  | single lowest => exact List.pairwise_singleton _ _
  | double lowest limit => exact List.pairwise_pair.mpr (Severity.le_error lowest.severity)

theorem of_limits {limits : List Nat} (filled : limits ≠ []) :
    IsLadder (Threshold.ladder limits) := by
  match limits, filled with
  | [limit], _ => exact .single ⟨.warning, limit⟩
  -- limits beyond the second one are dropped
  | warning :: error :: _, _ => exact .double ⟨.warning, warning⟩ error

theorem setFirst (ladder : IsLadder thresholds) (limit : Nat) :
    IsLadder (LineLength.setFirst limit thresholds) := by
  cases ladder with
  | single lowest => exact .single { lowest with value := limit }
  | double lowest second => exact .double { lowest with value := limit } second

theorem setSecond (ladder : IsLadder thresholds) (limit : Nat) :
    IsLadder (LineLength.setSecond limit thresholds) := by
  cases ladder with
  | single lowest => exact .double lowest limit
  | double lowest second => exact .double lowest limit

theorem setSeverity (ladder : IsLadder thresholds) (severity : Severity) :
    IsLadder (LineLength.setSeverity severity thresholds) := by
  cases ladder with
  | single lowest => exact .single { lowest with severity }
  | double lowest second => exact .double { lowest with severity } second

theorem change {α : Type} {set : α → List (Threshold Nat) → List (Threshold Nat)}
    (kept : ∀ a {thresholds}, IsLadder thresholds → IsLadder (set a thresholds))
    (ladder : IsLadder thresholds) (a : Option α) : IsLadder (LineLength.change set a thresholds) := by
  cases a with
  | none => exact ladder
  | some a => exact kept a ladder

end IsLadder

theorem exists_of_singles {base : List (Threshold Nat)} (accepted : (do
      let warning ← s.natural info.id "warning"
      let error ← s.natural info.id "error"
      let limits := change setSecond error (change setFirst warning base)
      return (⟨change setSeverity s.severity limits⟩ : LineLength)) = Except.ok next) :
    ∃ warning error, s.natural info.id "warning" = .ok warning ∧
      s.natural info.id "error" = .ok error ∧ next.thresholds =
        change setSeverity s.severity (change setSecond error (change setFirst warning base)) := by
  obtain ⟨warning, isWarning, accepted⟩ := bind_eq_ok_iff.mp accepted
  obtain ⟨error, isError, accepted⟩ := bind_eq_ok_iff.mp accepted
  cases accepted
  exact ⟨warning, error, isWarning, isError, rfl⟩

/-- All that a section does: the limits that it lists, if any, replace those of the rule; then
single limits are put in place, and then the severity of the lowest one. -/
theorem exists_of_configure (accepted : rule.configure s = .ok next) :
    ∃ listed warning error base, s.naturals info.id "thresholds" = .ok listed ∧
      s.natural info.id "warning" = .ok warning ∧ s.natural info.id "error" = .ok error ∧
      (listed = none ∧ base = rule.thresholds ∨
        ∃ limits, limits ≠ [] ∧ listed = some limits ∧ base = Threshold.ladder limits) ∧
      next.thresholds =
        change setSeverity s.severity (change setSecond error (change setFirst warning base)) := by
  unfold configure at accepted
  obtain ⟨-, -, accepted⟩ := bind_eq_ok_iff.mp accepted
  obtain ⟨listed, isListed, accepted⟩ := bind_eq_ok_iff.mp accepted
  cases listed with
  | none =>
    obtain ⟨warning, error, isWarning, isError, same⟩ := exists_of_singles accepted
    exact ⟨none, warning, error, rule.thresholds, isListed, isWarning, isError, .inl ⟨rfl, rfl⟩,
      same⟩
  | some limits =>
    obtain ⟨base, isBase, accepted⟩ := bind_eq_ok_iff.mp accepted
    obtain ⟨warning, error, isWarning, isError, same⟩ := exists_of_singles accepted
    unfold ladder? at isBase
    split at isBase
    · cases isBase
    · next filled =>
      cases isBase
      exact ⟨some limits, warning, error, _, isListed, isWarning, isError,
        .inr ⟨limits, by simpa using filled, rfl, rfl⟩, same⟩

theorem IsLadder.configure (ladder : IsLadder rule.thresholds)
    (accepted : rule.configure s = .ok next) : IsLadder next.thresholds := by
  obtain ⟨listed, warning, error, base, -, -, -, isBase, same⟩ := exists_of_configure accepted
  have baseLadder : IsLadder base := by
    rcases isBase with ⟨-, rfl⟩ | ⟨limits, filled, -, rfl⟩
    · exact ladder
    · exact .of_limits filled
  rw [same]
  apply IsLadder.change fun severity _ ladder => ladder.setSeverity severity
  apply IsLadder.change fun limit _ ladder => ladder.setSecond limit
  apply IsLadder.change fun limit _ ladder => ladder.setFirst limit
  exact baseLadder

theorem isLadder_of_reached (new : first.IsNew) (reached : Reached configure first rule) :
    IsLadder rule.thresholds := by
  apply reached.invariant (P := fun rule => IsLadder rule.thresholds)
  · cases new <;> exact .of_limits (List.cons_ne_nil _ _)
  · exact fun ladder accepted => ladder.configure accepted

end SwiftStyle.LineLength
