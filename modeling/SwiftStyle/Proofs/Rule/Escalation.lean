import SwiftStyle.Threshold

/-!
Thresholds in the order of their severities. The last one that is passed is then one of the highest
severity among those that are passed.
-/

namespace SwiftStyle.Threshold

variable {α : Type} {thresholds before after : List (Threshold α)} {t u : Threshold α}
  {passed : α → Bool}

/-- Thresholds of which none is milder than one before it. -/
def Ordered (thresholds : List (Threshold α)) : Prop :=
  thresholds.Pairwise fun t u => t.severity ≤ u.severity

/-- What grades something: no threshold if it passes none, else one of the highest severity among
those that it passes. -/
inductive Grades (thresholds : List (Threshold α)) (passed : α → Bool) :
    Option (Threshold α) → Prop
  | none : (∀ t ∈ thresholds, passed t.value = false) → Grades thresholds passed none
  | some {t : Threshold α} : t ∈ thresholds → passed t.value = true →
      (∀ u ∈ thresholds, passed u.value = true → u.severity ≤ t.severity) →
      Grades thresholds passed (some t)

theorem escalate_eq_none_iff :
    escalate thresholds passed = none ↔ ∀ t ∈ thresholds, passed t.value = false := by
  rw [escalate, List.find?_eq_none]
  simp only [List.mem_reverse, Bool.not_eq_true]

/-- What is not after a threshold is not more severe. -/
theorem Ordered.severity_le (ordered : Ordered (before ++ t :: after))
    (mem : u ∈ before ++ t :: after) (notAfter : u ∉ after) : u.severity ≤ t.severity := by
  rcases List.mem_append.mp mem with earlier | later
  · exact (List.pairwise_append.mp ordered).2.2 u earlier t List.mem_cons_self
  · rcases List.mem_cons.mp later with rfl | later
    · exact Severity.le_refl u.severity
    · exact absurd later notAfter

theorem Ordered.grades (ordered : Ordered thresholds) (passed : α → Bool) :
    Grades thresholds passed (escalate thresholds passed) := by
  cases found : escalate thresholds passed with
  | none => exact .none (escalate_eq_none_iff.mp found)
  | some t =>
    obtain ⟨passes, before, after, rfl, others⟩ := escalate_eq_some_iff.mp found
    refine .some (List.mem_append_right before List.mem_cons_self) passes ?_
    intro u mem exceeded
    apply ordered.severity_le mem
    intro later
    exact absurd exceeded (by simp [others u later])

theorem ordered_of_forall {severity : Severity} (same : ∀ t ∈ thresholds, t.severity = severity) :
    Ordered thresholds := by
  apply List.pairwise_of_forall_mem_list
  intro t ht u hu
  rw [same t ht, same u hu]
  exact Severity.le_refl severity

end SwiftStyle.Threshold
