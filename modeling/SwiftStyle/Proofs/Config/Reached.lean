import SwiftStyle.Config.Section

/-!
What a rule can become when sections are given to it, one after the other.
-/

namespace SwiftStyle

/-- A rule is what it is at first, or what a section that it accepted made of it. -/
inductive Reached {α : Type} (configure : α → Section → Except ConfigError α) (first : α) :
    α → Prop
  | start : Reached configure first first
  | step {rule next : α} {s : Section} : Reached configure first rule →
      configure rule s = .ok next → Reached configure first next

/-- What holds at first and is kept by every section holds of all that a rule can become. -/
theorem Reached.invariant {α : Type} {configure : α → Section → Except ConfigError α}
    {first rule : α} {P : α → Prop} (reached : Reached configure first rule) (base : P first)
    (kept : ∀ {rule next s}, P rule → configure rule s = .ok next → P next) : P rule := by
  induction reached with
  | start => exact base
  | step _ accepted ih => exact kept ih accepted

end SwiftStyle
