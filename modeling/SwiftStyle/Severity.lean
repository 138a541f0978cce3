/-!
How serious a violation is.
-/

namespace SwiftStyle

/-- The two severities; an error outranks a warning. -/
inductive Severity where
  | warning
  | error
  deriving DecidableEq, Repr

namespace Severity

/-- The place of a severity in their order, the lowest first. -/
def rank : Severity → Nat
  | warning => 0
  | error => 1

instance : LE Severity := ⟨fun a b => a.rank ≤ b.rank⟩

instance (a b : Severity) : Decidable (a ≤ b) := inferInstanceAs (Decidable (a.rank ≤ b.rank))

/-- The word for a severity. -/
def name : Severity → String
  | warning => "warning"
  | error => "error"

/-- The severity that a word names. -/
def ofName? : String → Option Severity
  | "warning" => some warning
  | "error" => some error
  | _ => none

@[simp]
theorem ofName?_name (s : Severity) : ofName? s.name = some s := by cases s <;> rfl

theorem le_refl (severity : Severity) : severity ≤ severity := Nat.le_refl severity.rank

theorem le_antisymm {a b : Severity} (ab : a ≤ b) (ba : b ≤ a) : a = b := by
  cases a <;> cases b <;> first | rfl | exact absurd ab (by decide) | exact absurd ba (by decide)

theorem warning_le (severity : Severity) : warning ≤ severity := Nat.zero_le severity.rank

theorem le_error (severity : Severity) : severity ≤ error := by cases severity <;> decide

theorem error_le_iff {severity : Severity} : error ≤ severity ↔ severity = error := by
  cases severity <;> decide

end Severity

end SwiftStyle
