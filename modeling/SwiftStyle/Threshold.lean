import SwiftStyle.Severity

/-!
Thresholds: values paired with the severity that passing them has. A rule that grades what it
finds holds a list of them, the mildest first.
-/

namespace SwiftStyle

/-- A value and the severity of what passes it. -/
structure Threshold (α : Type) where
  severity : Severity
  value : α
  deriving DecidableEq, Repr

namespace Threshold

variable {α : Type}

/-- A warning from the first value on and an error from the second on; further values have no
severity left and are dropped. -/
def ladder (values : List α) : List (Threshold α) :=
  ([Severity.warning, Severity.error].zip values).map fun (severity, value) => ⟨severity, value⟩

/-- The last threshold that is passed. -/
def escalate (thresholds : List (Threshold α)) (passed : α → Bool) : Option (Threshold α) :=
  thresholds.reverse.find? fun threshold => passed threshold.value

theorem escalate_eq_some_iff {thresholds : List (Threshold α)} {passed : α → Bool}
    {t : Threshold α} :
    escalate thresholds passed = some t ↔
      passed t.value = true ∧ ∃ before after, thresholds = before ++ t :: after ∧
        ∀ u ∈ after, passed u.value = false := by
  rw [escalate, List.find?_eq_some_iff_append]
  refine and_congr_right fun _ => ⟨?_, ?_⟩
  · rintro ⟨later, earlier, split, others⟩
    refine ⟨earlier.reverse, later.reverse, ?_, by simpa using others⟩
    rw [← List.reverse_reverse thresholds, split]
    simp
  · rintro ⟨before, after, rfl, others⟩
    exact ⟨after.reverse, before.reverse, by simp, by simpa using others⟩

end Threshold

end SwiftStyle
