import SwiftStyle.Proofs.Declaration.Nesting

/-!
Paths to the declarations of a tree. A path gives the places of the declarations to go through, each
among the children of the one before; the empty path ends at the tree itself. Listing the paths
below a declaration before its own gives every occurrence once, in post-order.
-/

namespace SwiftStyle.Declaration

/-- The declaration that a path ends at. -/
def at? : Declaration → List Nat → Option Declaration
  | d, [] => some d
  | d, i :: path => (d.children[i]?).bind fun child => at? child path

/-- The declaration that has the end of a path among its children. -/
def parentAt? (d : Declaration) : List Nat → Option Declaration
  | [] => none
  | i :: path => d.at? (i :: path).dropLast

/-- Whether the end of one path comes before the end of another in post-order: it is inside of
that, or the two part and the first goes to the left. -/
def Precedes : List Nat → List Nat → Prop
  | [], _ => False
  | _ :: _, [] => True
  | i :: p, j :: q => i < j ∨ i = j ∧ Precedes p q

instance decidablePrecedes : (p q : List Nat) → Decidable (Precedes p q)
  | [], _ => isFalse id
  | _ :: _, [] => isTrue trivial
  | i :: p, j :: q =>
    have := decidablePrecedes p q
    inferInstanceAs (Decidable (i < j ∨ i = j ∧ Precedes p q))

mutual

/-- The paths of a tree in post-order. -/
def paths : Declaration → List (List Nat)
  | ⟨_, _, _, _, _, _, _, children⟩ => pathsFrom 0 children ++ [[]]

/-- The paths of trees that are numbered from a place on. -/
def pathsFrom (i : Nat) : List Declaration → List (List Nat)
  | [] => []
  | d :: ds => (paths d).map (i :: ·) ++ pathsFrom (i + 1) ds

end

@[simp]
theorem at?_nil (d : Declaration) : d.at? [] = some d := by rw [at?]

theorem at?_cons (d : Declaration) (i : Nat) (path : List Nat) :
    d.at? (i :: path) = (d.children[i]?).bind fun child => child.at? path := by rw [at?]

theorem at?_of_child {d child : Declaration} {i : Nat} (found : d.children[i]? = some child)
    (path : List Nat) : d.at? (i :: path) = child.at? path := by
  rw [at?_cons, found, Option.bind_some]

theorem mem_walk_of_at? {d found : Declaration} {path : List Nat}
    (h : d.at? path = some found) : found ∈ d.walk := by
  have below : ∀ (path : List Nat) (top : Declaration), top ∈ d.walk →
      top.at? path = some found → found ∈ d.walk := by
    intro path
    induction path with
    | nil =>
      intro top visited h
      rw [at?_nil] at h
      exact Option.some.inj h ▸ visited
    | cons i path ih =>
      intro top visited h
      rw [at?_cons] at h
      obtain ⟨child, inside, h⟩ := Option.bind_eq_some_iff.mp h
      exact ih child (mem_walkStack_of_child visited (List.mem_of_getElem? inside)) h
  exact below path d (mem_walkStack_of_mem (List.mem_singleton_self d)) h

@[simp]
theorem parentAt?_nil (d : Declaration) : d.parentAt? [] = none := rfl

@[simp]
theorem parentAt?_singleton (d : Declaration) (i : Nat) : d.parentAt? [i] = some d := at?_nil d

theorem parentAt?_of_child {d child : Declaration} {i : Nat} (found : d.children[i]? = some child)
    {path : List Nat} (below : path ≠ []) : d.parentAt? (i :: path) = child.parentAt? path := by
  cases path with
  | nil => contradiction
  | cons j path => exact at?_of_child found _

theorem paths_eq (d : Declaration) : d.paths = pathsFrom 0 d.children ++ [[]] := by
  cases d; rfl

mutual

theorem mem_paths_iff : (d : Declaration) → {path : List Nat} →
    (path ∈ d.paths ↔ (d.at? path).isSome)
  | ⟨kind, name, offset, length, access, documentation, inherits, children⟩, path => by
    rw [paths_eq, List.mem_append, mem_pathsFrom_iff, List.mem_singleton]
    cases path with
    | nil => simp
    | cons i path =>
      rw [at?_cons, Option.isSome_bind, Option.any_eq_true]
      constructor
      · rintro (⟨j, child, rest, found, same, inside⟩ | empty)
        · obtain ⟨rfl, rfl⟩ := List.cons.inj same
          exact ⟨child, by rwa [Nat.zero_add], inside⟩
        · cases empty
      · rintro ⟨child, found, inside⟩
        exact .inl ⟨i, child, path, found, by rw [Nat.zero_add], inside⟩

/-- A path through numbered trees starts with the number of one and goes on inside it. -/
theorem mem_pathsFrom_iff {i : Nat} : (ds : List Declaration) → {path : List Nat} →
    (path ∈ pathsFrom i ds ↔
      ∃ j child rest, ds[j]? = some child ∧ path = (i + j) :: rest ∧ (child.at? rest).isSome)
  | [], path => by simp [pathsFrom]
  | d :: ds, path => by
    rw [pathsFrom, List.mem_append, List.mem_map, mem_pathsFrom_iff ds]
    constructor
    · rintro (⟨rest, hrest, rfl⟩ | ⟨j, child, rest, found, rfl, inside⟩)
      · exact ⟨0, d, rest, rfl, rfl, (mem_paths_iff d).mp hrest⟩
      · exact ⟨j + 1, child, rest, found, by rw [Nat.add_right_comm, Nat.add_assoc], inside⟩
    · rintro ⟨j, child, rest, found, rfl, inside⟩
      cases j with
      | zero =>
        cases found
        exact .inl ⟨rest, (mem_paths_iff d).mpr inside, rfl⟩
      | succ j => exact .inr ⟨j, child, rest, found, by rw [Nat.add_right_comm, Nat.add_assoc], inside⟩

end

mutual

theorem paths_pairwise : (d : Declaration) → d.paths.Pairwise Precedes
  | ⟨kind, name, offset, length, access, documentation, inherits, children⟩ => by
    rw [paths_eq]
    refine List.pairwise_append.mpr ⟨pathsFrom_pairwise 0 children, List.pairwise_singleton _ _, ?_⟩
    intro path hpath root hroot
    obtain ⟨j, child, rest, -, rfl, -⟩ := (mem_pathsFrom_iff children).mp hpath
    obtain rfl := List.mem_singleton.mp hroot
    exact trivial

theorem pathsFrom_pairwise (i : Nat) : (ds : List Declaration) → (pathsFrom i ds).Pairwise Precedes
  | [] => .nil
  | d :: ds => by
    rw [pathsFrom]
    refine List.pairwise_append.mpr ⟨?_, pathsFrom_pairwise (i + 1) ds, ?_⟩
    · exact List.pairwise_map.mpr ((paths_pairwise d).imp fun before => .inr ⟨rfl, before⟩)
    · intro path hpath other hother
      obtain ⟨rest, -, rfl⟩ := List.mem_map.mp hpath
      obtain ⟨j, child, rest', -, rfl, -⟩ := (mem_pathsFrom_iff ds).mp hother
      exact .inl (by omega)

end

end SwiftStyle.Declaration
