import Mathlib.Data.List.Dedup
import Mathlib.Data.List.Perm.Basic

/-!
Lists: entries looked up by their names, items without those that are there already, and items
sorted by keys.
-/

namespace SwiftStyle

theorem lookup_cons_eq {α β : Type} [DecidableEq α] (known asked : α) (old : β)
    (entries : List (α × β)) :
    ((known, old) :: entries).lookup asked
      = if known = asked then some old else entries.lookup asked := by
  by_cases same : known = asked
  · rw [if_pos same, List.lookup_cons, beq_iff_eq.mpr same.symm]
  · rw [if_neg same, List.lookup_cons, beq_eq_false_iff_ne.mpr (Ne.symm same)]

section

variable {α : Type} [BEq α] [LawfulBEq α]

theorem nodup_eraseDups (l : List α) : l.eraseDups.Nodup := by
  match l with
  | [] => exact List.nodup_nil
  | a :: l =>
    rw [List.eraseDups_cons, List.nodup_cons, List.mem_eraseDups]
    exact ⟨by simp, nodup_eraseDups (l.filter fun b => !b == a)⟩
termination_by l.length
decreasing_by
  exact Nat.lt_succ_of_le (List.length_filter_le _ _)

theorem eraseDups_concat (l : List α) (a : α) :
    (l ++ [a]).eraseDups = if a ∈ l then l.eraseDups else l.eraseDups ++ [a] := by
  rw [List.eraseDups_append]
  by_cases known : a ∈ l
  · simp [List.removeAll, known]
  · simp [List.removeAll, known, List.eraseDups_cons]

end

/-- The items of all keys are the items, in another order. -/
theorem flatMap_filter_perm {α β : Type} [DecidableEq α] {keys : List α} (distinct : keys.Nodup)
    {key : β → α} {items : List β} (covered : ∀ item ∈ items, key item ∈ keys) :
    (keys.flatMap fun k => items.filter fun item => key item = k).Perm items := by
  induction keys generalizing items with
  | nil =>
    cases items with
    | nil => exact .refl _
    | cons item items => exact absurd (covered item List.mem_cons_self) List.not_mem_nil
  | cons k keys ih =>
    obtain ⟨fresh, distinct⟩ := List.nodup_cons.mp distinct
    -- the other keys do not see the items of this one
    have others : ∀ k' ∈ keys, (items.filter fun item => key item = k') =
        (items.filter fun item => !decide (key item = k)).filter fun item => key item = k' := by
      intro k' mem
      rw [List.filter_filter]
      apply List.filter_congr
      intro item _
      by_cases same : key item = k'
      · have differ : key item ≠ k := fun same' => fresh (same' ▸ same ▸ mem)
        simp [same, same ▸ differ]
      · simp [same]
    have uncovered : ∀ item ∈ items.filter (fun item => !decide (key item = k)),
        key item ∈ keys := by
      intro item mem
      obtain ⟨mem, differ⟩ := List.mem_filter.mp mem
      rcases List.mem_cons.mp (covered item mem) with same | later
      · simp [same] at differ
      · exact later
    rw [List.flatMap_cons, List.flatMap_congr others]
    exact ((ih distinct uncovered).append_left _).trans (List.filter_append_perm _ items)

end SwiftStyle
