import Mathlib.Data.List.Basic
import SwiftStyle.Path

/-!
The order of paths. Steps are ordered strictly, and lists of steps as words are, so that two paths
that are each at most the other make the same steps. Sorting leaves one path for each list of steps,
in strictly ascending order.
-/

namespace SwiftStyle.Path

namespace Component

variable {a b c : Component}

theorem isBefore_name_iff {first second : String} :
    (name first).isBefore (name second) = true ↔ first < second :=
  decide_eq_true_iff

theorem isBefore_asymm (h : a.isBefore b = true) : ¬b.isBefore a = true := by
  cases a with
  | name first =>
    cases b with
    | name second =>
      rw [isBefore_name_iff] at h ⊢
      exact String.lt_asymm h
    | root | here | up => cases h
  | root | here | up => cases b <;> first | exact Bool.false_ne_true | cases h

theorem isBefore_or (differ : a ≠ b) : a.isBefore b = true ∨ b.isBefore a = true := by
  cases a with
  | name first =>
    cases b with
    | name second =>
      rw [isBefore_name_iff, isBefore_name_iff]
      by_contra neither
      push Not at neither
      exact differ (congrArg name (String.le_antisymm neither.2 neither.1))
    | root | here | up => exact .inr rfl
  | root | here | up =>
    cases b <;> first
      | exact .inl rfl
      | exact .inr rfl
      | exact absurd rfl differ

theorem isBefore_trans (first : a.isBefore b = true) (second : b.isBefore c = true) :
    a.isBefore c = true := by
  cases b with
  | name middle =>
    cases c with
    | name last =>
      cases a with
      | name start =>
        rw [isBefore_name_iff] at first second ⊢
        exact String.lt_trans first second
      | root | here | up => rfl
    | root | here | up => cases second
  | root | here | up =>
    cases a <;> cases c <;> first
      | rfl
      | exact absurd first Bool.false_ne_true
      | exact absurd second Bool.false_ne_true

end Component

theorem stepsAtMost_refl (steps : List Component) : stepsAtMost steps steps = true := by
  induction steps with
  | nil => rfl
  | cons a steps ih => rw [stepsAtMost, if_pos rfl, ih]

theorem stepsAtMost_total (first second : List Component) :
    stepsAtMost first second = true ∨ stepsAtMost second first = true := by
  induction first generalizing second with
  | nil => exact .inl rfl
  | cons a first ih =>
    cases second with
    | nil => exact .inr rfl
    | cons b second =>
      unfold stepsAtMost
      by_cases same : a = b
      · rw [if_pos same, if_pos same.symm]
        exact ih second
      · rw [if_neg same, if_neg (Ne.symm same)]
        exact Component.isBefore_or same

theorem stepsAtMost_antisymm {first second : List Component}
    (h : stepsAtMost first second = true) (h' : stepsAtMost second first = true) :
    first = second := by
  induction first generalizing second with
  | nil =>
    cases second with
    | nil => rfl
    | cons b second => cases h'
  | cons a first ih =>
    cases second with
    | nil => cases h
    | cons b second =>
      unfold stepsAtMost at h h'
      by_cases same : a = b
      · rw [if_pos same] at h
        rw [if_pos same.symm] at h'
        rw [same, ih h h']
      · rw [if_neg same] at h
        rw [if_neg (Ne.symm same)] at h'
        exact absurd h' (Component.isBefore_asymm h)

theorem stepsAtMost_trans {first second third : List Component}
    (h : stepsAtMost first second = true) (h' : stepsAtMost second third = true) :
    stepsAtMost first third = true := by
  induction first generalizing second third with
  | nil => rfl
  | cons a first ih =>
    cases second with
    | nil => cases h
    | cons b second =>
      cases third with
      | nil => cases h'
      | cons c third =>
        unfold stepsAtMost at h h' ⊢
        by_cases same : a = b <;> by_cases same' : b = c
        · subst same same'
          rw [if_pos rfl] at h h' ⊢
          exact ih h h'
        · subst same
          rwa [if_neg same'] at h' ⊢
        · subst same'
          rwa [if_neg same] at h ⊢
        · rw [if_neg same] at h
          rw [if_neg same'] at h'
          have before := Component.isBefore_trans h h'
          have differ : a ≠ c := by
            rintro rfl
            exact Component.isBefore_asymm h h'
          rwa [if_neg differ]

/-- Whether a path comes before another one that makes other steps. -/
def Before (a b : Path) : Prop := a.isAtMost b = true ∧ a.components ≠ b.components

theorem isAtMost_trans (a b c : Path) (h : a.isAtMost b = true) (h' : b.isAtMost c = true) :
    a.isAtMost c = true :=
  stepsAtMost_trans h h'

theorem isAtMost_total (a b : Path) : (a.isAtMost b || b.isAtMost a) = true := by
  rw [Bool.or_eq_true]
  exact stepsAtMost_total _ _

/-! Sorting keeps every path, up to its spelling. -/

theorem dedup_subset (paths : List Path) : dedup paths ⊆ paths := by
  fun_induction dedup paths with
  | case1 a b paths same ih =>
    exact fun path mem => (List.mem_cons.mp (ih mem)).elim (fun first => first ▸ List.mem_cons_self)
      fun mem => List.mem_cons_of_mem a (List.mem_cons_of_mem b mem)
  | case2 a b paths differ ih => exact List.cons_subset_cons a ih
  | case3 => exact List.Subset.refl _

theorem exists_mem_dedup {paths : List Path} {path : Path} (h : path ∈ paths) :
    ∃ path' ∈ dedup paths, path'.components = path.components := by
  fun_induction dedup paths generalizing path with
  | case1 a b paths same ih =>
    rcases List.mem_cons.mp h with rfl | h
    · exact ih List.mem_cons_self
    rcases List.mem_cons.mp h with rfl | h
    · obtain ⟨path', mem, equal⟩ := ih List.mem_cons_self
      exact ⟨path', mem, equal.trans (eq_of_beq same)⟩
    · exact ih (List.mem_cons_of_mem a h)
  | case2 a b paths differ ih =>
    rcases List.mem_cons.mp h with rfl | h
    · exact ⟨_, List.mem_cons_self, rfl⟩
    · obtain ⟨path', mem, equal⟩ := ih h
      exact ⟨path', List.mem_cons_of_mem a mem, equal⟩
  | case3 => exact ⟨path, h, rfl⟩

theorem mem_of_mem_sorted {paths : List Path} {path : Path} (h : path ∈ sorted paths) :
    path ∈ paths :=
  List.mem_mergeSort.mp (dedup_subset _ h)

theorem sorted_of_ordered {paths : List Path}
    (ordered : paths.Pairwise fun a b => a.isAtMost b = true) : sorted paths = dedup paths :=
  congrArg dedup (List.mergeSort_of_pairwise ordered)

theorem exists_mem_sorted {paths : List Path} {path : Path} (h : path ∈ paths) :
    ∃ path' ∈ sorted paths, path'.components = path.components :=
  exists_mem_dedup (List.mem_mergeSort.mpr h)

/-- Of paths in order, those that are left make steps of their own. -/
theorem dedup_ascending {paths : List Path}
    (ordered : paths.Pairwise fun a b => a.isAtMost b = true) : (dedup paths).Pairwise Before := by
  fun_induction dedup paths with
  | case1 a b paths same ih =>
    apply ih
    exact ordered.sublist (.cons_cons a (.cons b (.refl paths)))
  | case2 a b paths differ ih =>
    obtain ⟨atMost, ordered⟩ := List.pairwise_cons.mp ordered
    refine List.pairwise_cons.mpr ⟨fun path left => ?_, ih ordered⟩
    have mem := dedup_subset _ left
    refine ⟨atMost path mem, fun same => differ ?_⟩
    -- `b` lies between two paths that make the same steps
    have above : stepsAtMost b.components a.components = true := by
      rw [same]
      rcases List.mem_cons.mp mem with rfl | mem
      · exact stepsAtMost_refl _
      · exact (List.pairwise_cons.mp ordered).1 path mem
    exact beq_iff_eq.mpr (stepsAtMost_antisymm (atMost b List.mem_cons_self) above)
  | case3 paths single =>
    match paths, single with
    | [], _ => exact .nil
    | [path], _ => exact List.pairwise_singleton _ path
    | a :: b :: paths, single => exact absurd rfl (single a b paths)

theorem sorted_ascending (paths : List Path) : (sorted paths).Pairwise Before := by
  apply dedup_ascending
  exact List.pairwise_mergeSort isAtMost_trans isAtMost_total paths

end SwiftStyle.Path
