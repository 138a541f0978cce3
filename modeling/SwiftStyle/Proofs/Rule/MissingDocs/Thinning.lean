import SwiftStyle.Proofs.Rule.MissingDocs.Reports

/-!
Under an index with more members, the rule for documentation reports less: some of its violations
are gone, and the others are the same and in the same order.
-/

namespace SwiftStyle.MissingDocs

/-- The second list has all violations of the first but for some of the rule for documentation. -/
inductive Thinned : List Violation → List Violation → Prop
  | nil : Thinned [] []
  | keep {v vs ws} : Thinned vs ws → Thinned (v :: vs) (v :: ws)
  | drop {v vs ws} : v.rule = info.reporter → Thinned vs ws → Thinned (v :: vs) ws

namespace Thinned

theorem refl (vs : List Violation) : Thinned vs vs := by
  induction vs with
  | nil => exact .nil
  | cons v vs ih => exact .keep ih

theorem append {vs ws vs' ws' : List Violation} (h : Thinned vs ws) (h' : Thinned vs' ws') :
    Thinned (vs ++ vs') (ws ++ ws') := by
  induction h with
  | nil => exact h'
  | keep _ ih => exact .keep ih
  | drop own _ ih => exact .drop own ih

theorem sublist {vs ws : List Violation} (h : Thinned vs ws) : ws.Sublist vs := by
  induction h with
  | nil => exact .slnil
  | keep _ ih => exact ih.cons_cons _
  | drop _ _ ih => exact ih.cons _

theorem antisymm {vs ws : List Violation} (h : Thinned vs ws) (h' : Thinned ws vs) : vs = ws :=
  h'.sublist.antisymm h.sublist

theorem flatMap {α : Type} {f g : α → List Violation} {xs : List α}
    (h : ∀ x ∈ xs, Thinned (f x) (g x)) : Thinned (xs.flatMap f) (xs.flatMap g) := by
  induction xs with
  | nil => exact .nil
  | cons x xs ih =>
    obtain ⟨first, others⟩ := List.forall_mem_cons.mp h
    exact first.append (ih others)

theorem filterMap {α : Type} {f g : α → Option Violation}
    (own : ∀ x v, f x = some v → v.rule = info.reporter)
    (less : ∀ x v, g x = some v → f x = some v) (xs : List α) :
    Thinned (xs.filterMap f) (xs.filterMap g) := by
  induction xs with
  | nil => exact .nil
  | cons x xs ih =>
    cases kept : g x with
    | some v =>
      rw [List.filterMap_cons_some kept, List.filterMap_cons_some (less x v kept)]
      exact .keep ih
    | none =>
      rw [List.filterMap_cons_none kept]
      cases found : f x with
      | some v =>
        rw [List.filterMap_cons_some found]
        exact .drop (own x v found) ih
      | none =>
        rw [List.filterMap_cons_none found]
        exact ih

end Thinned

/-- A declaration that lacks documentation does so under an index that knows less, too. -/
theorem Undocumented.of_fewer {rule : MissingDocs} {index index' : DeclarationIndex}
    {clause : List String} {d : Declaration} (h : rule.Undocumented index' clause d)
    (fewer : ∀ type, index.membersOf type ⊆ index'.membersOf type) :
    rule.Undocumented index clause d where
  documentable := h.documentable
  bare := h.bare
  graded := h.graded
  uncovered type htype member hmember := h.uncovered type htype member (fewer type hmember)

theorem violations_thinned {index index' : DeclarationIndex}
    (fewer : ∀ type, index.membersOf type ⊆ index'.membersOf type) (rule : MissingDocs)
    (file : SourceFile) :
    Thinned (rule.violations file index) (rule.violations file index') := by
  cases parsed : file.root? with
  | none =>
    rw [violations_of_unparsed parsed, violations_of_unparsed parsed]
    exact .nil
  | some root =>
    rw [violations_of_root? parsed, violations_of_root? parsed]
    apply Thinned.filterMap
    · intro path v found
      obtain ⟨d, -, -, tells⟩ := at?_eq_some_iff.mp found
      exact tells.reporter
    · intro path v found
      obtain ⟨d, inside, lacks, tells⟩ := at?_eq_some_iff.mp found
      exact at?_eq_some_iff.mpr ⟨d, inside, lacks.of_fewer fewer, tells⟩

end SwiftStyle.MissingDocs
