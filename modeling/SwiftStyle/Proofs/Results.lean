import Mathlib.Data.List.Basic

/-!
Results that may be errors: one after the other, and one for each item of a list.
-/

namespace SwiftStyle

variable {ε ε' α β : Type}

theorem isOk_iff {result : Except ε α} :
    result.isOk = true ↔ ∃ value, result = .ok value := by
  cases result <;> simp [Except.isOk, Except.toBool]

theorem eq_ok_of_toOption {result : Except ε α} {value : α}
    (h : result.toOption = some value) : result = .ok value := by
  cases result with
  | error e => cases h
  | ok other => exact congrArg Except.ok (Option.some.inj h)

theorem exists_of_map_eq_ok {f : α → β} {x : Except ε α} {b : β}
    (h : x.map f = .ok b) : ∃ a, x = .ok a ∧ f a = b := by
  cases x with
  | error e => cases h
  | ok a =>
    cases h
    exact ⟨a, rfl, rfl⟩

theorem bind_eq_ok_iff {x : Except ε α} {f : α → Except ε β} {b : β} :
    x >>= f = .ok b ↔ ∃ a, x = .ok a ∧ f a = .ok b := by
  cases x <;> simp [bind, Except.bind]

theorem exists_ok_iff_not_exists_error {x : Except ε α} :
    (∃ a, x = .ok a) ↔ ¬∃ error, x = .error error := by
  cases x <;> simp

theorem mapError_eq_ok_iff {x : Except ε α} {f : ε → ε'} {a : α} :
    x.mapError f = .ok a ↔ x = .ok a := by
  cases x <;> simp [Except.mapError]

theorem mapM_eq_ok_iff {f : α → Except ε β} {xs : List α} {ys : List β} :
    xs.mapM f = .ok ys ↔ xs.map f = ys.map .ok := by
  induction xs generalizing ys with
  | nil => cases ys <;> simp [pure, Except.pure]
  | cons x xs ih =>
    rw [List.mapM_cons, List.map_cons]
    cases first : f x with
    | error e => cases ys <;> simp [bind, Except.bind]
    | ok y =>
      cases others : xs.mapM f with
      | error e =>
        have none : ∀ ys : List β, xs.map f ≠ ys.map .ok := by
          intro ys same
          rw [ih.mpr same] at others
          cases others
        cases ys <;> simp [bind, Except.bind, none]
      | ok rest =>
        have injective : Function.Injective (Except.ok : β → Except ε β) :=
          fun _ _ => Except.ok.inj
        rw [ih.mp others]
        cases ys <;> simp [bind, Except.bind, pure, Except.pure, injective.list_map.eq_iff]

/-- If every item has a result, so have all, and the results are those of the items. -/
theorem exists_mapM {f : α → Except ε β} {xs : List α}
    (h : ∀ x ∈ xs, ∃ y, f x = .ok y) :
    ∃ ys, xs.mapM f = .ok ys ∧ ∀ y, y ∈ ys ↔ ∃ x ∈ xs, f x = .ok y := by
  obtain ⟨ys, same⟩ : ∃ ys : List β, xs.map f = ys.map .ok := by
    induction xs with
    | nil => exact ⟨[], rfl⟩
    | cons x xs ih =>
      obtain ⟨⟨y, first⟩, rest⟩ := List.forall_mem_cons.mp h
      obtain ⟨ys, others⟩ := ih rest
      exact ⟨y :: ys, by rw [List.map_cons, first, others, List.map_cons]⟩
  refine ⟨ys, mapM_eq_ok_iff.mpr same, fun y => ?_⟩
  have results : Except.ok y ∈ xs.map f ↔ y ∈ ys := by
    rw [same]
    exact List.mem_map_of_injective fun _ _ => Except.ok.inj
  rw [← results, List.mem_map]

theorem exists_mapM_flatten {f : α → Except ε (List β)} {xs : List α}
    (h : ∀ x ∈ xs, ∃ ys, f x = .ok ys) :
    ∃ lists, xs.mapM f = .ok lists ∧
      ∀ y, y ∈ lists.flatten ↔ ∃ x ∈ xs, ∃ ys, f x = .ok ys ∧ y ∈ ys := by
  obtain ⟨lists, mapped, members⟩ := exists_mapM h
  refine ⟨lists, mapped, fun y => ?_⟩
  rw [List.mem_flatten]
  constructor
  · rintro ⟨ys, mem, inside⟩
    obtain ⟨x, known, same⟩ := (members ys).mp mem
    exact ⟨x, known, ys, same, inside⟩
  · rintro ⟨x, known, ys, same, inside⟩
    exact ⟨ys, (members ys).mpr ⟨x, known, same⟩, inside⟩

theorem exists_of_mapM_eq_ok {f : α → Except ε β} {xs : List α} {ys : List β}
    (h : xs.mapM f = .ok ys) : ∀ y ∈ ys, ∃ x ∈ xs, f x = .ok y := by
  intro y mem
  have result : Except.ok y ∈ ys.map (Except.ok : β → Except ε β) := List.mem_map_of_mem mem
  rw [← mapM_eq_ok_iff.mp h] at result
  exact List.mem_map.mp result

theorem exists_ok_of_mem {f : α → Except ε β} {xs : List α} {ys : List β}
    (h : xs.map f = ys.map .ok) {x : α} (mem : x ∈ xs) : ∃ y, f x = .ok y := by
  have result : f x ∈ xs.map f := List.mem_map_of_mem mem
  rw [h] at result
  obtain ⟨y, -, same⟩ := List.mem_map.mp result
  exact ⟨y, same.symm⟩

end SwiftStyle
