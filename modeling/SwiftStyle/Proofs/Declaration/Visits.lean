import SwiftStyle.Proofs.Declaration.Paths

/-!
The walk of a tree as an iteration. What is still to be visited stands on a stack whose end comes
next: the declaration at the end leaves the stack, and its children come in its place, the last one
first. Whatever was visited so far, the trees on the stack from its end on hold what is to come, so
every step takes one declaration off the listing in preorder.
-/

namespace SwiftStyle.Declaration

/-- The declaration that a stack gives next, and the stack after it. -/
def next? (stack : List Declaration) : Option (Declaration × List Declaration) :=
  stack.getLast?.map fun d => (d, stack.dropLast ++ d.children.reverse)

/-- What a stack gives when it is asked a number of times, and the stack after that. -/
def visit : Nat → List Declaration → List Declaration × List Declaration
  | 0, stack => ([], stack)
  | n + 1, stack =>
    match next? stack with
    | none => ([], stack)
    | some (d, rest) => (d :: (visit n rest).1, (visit n rest).2)

theorem next?_eq_none_iff {stack : List Declaration} : next? stack = none ↔ stack = [] := by
  rw [next?, Option.map_eq_none_iff, List.getLast?_eq_none_iff]

theorem next?_concat (stack : List Declaration) (d : Declaration) :
    next? (stack ++ [d]) = some (d, stack ++ d.children.reverse) := by
  rw [next?, List.getLast?_concat, List.dropLast_concat, Option.map_some]

/-- A step takes the next declaration off the trees on the stack, and nothing else. -/
theorem preorderAll_reverse_concat (stack : List Declaration) (d : Declaration) :
    preorderAll (stack ++ [d]).reverse =
      d :: preorderAll (stack ++ d.children.reverse).reverse := by
  calc preorderAll (stack ++ [d]).reverse
      = d.preorder ++ preorderAll stack.reverse := by rw [List.reverse_concat, preorderAll]
    _ = d :: (preorderAll d.children ++ preorderAll stack.reverse) := by
        rw [preorder_eq, List.cons_append]
    _ = d :: preorderAll (stack ++ d.children.reverse).reverse := by
        rw [List.reverse_append, List.reverse_reverse, preorderAll_append]

theorem visit_spec (n : Nat) (stack : List Declaration) :
    (visit n stack).1 = (preorderAll stack.reverse).take n ∧
      preorderAll (visit n stack).2.reverse = (preorderAll stack.reverse).drop n := by
  induction n generalizing stack with
  | zero => exact ⟨rfl, rfl⟩
  | succ n ih =>
    rcases List.eq_nil_or_concat stack with rfl | ⟨below, d, rfl⟩
    · exact ⟨rfl, rfl⟩
    · obtain ⟨visited, left⟩ := ih (below ++ d.children.reverse)
      rw [List.concat_eq_append, visit, next?_concat, preorderAll_reverse_concat]
      exact ⟨congrArg (d :: ·) visited, left⟩

mutual

theorem length_preorder : (d : Declaration) → d.preorder.length = d.weight
  | ⟨_, _, _, _, _, _, _, children⟩ => congrArg (· + 1) (length_preorderAll children)

theorem length_preorderAll : (ds : List Declaration) → (preorderAll ds).length = weightAll ds
  | [] => rfl
  | d :: ds => by
    rw [preorderAll, weightAll, List.length_append, length_preorder d, length_preorderAll ds]

end

theorem preorderAll_eq_nil_iff {ds : List Declaration} : preorderAll ds = [] ↔ ds = [] := by
  cases ds with
  | nil => exact iff_of_true rfl rfl
  | cons d ds => rw [preorderAll, preorder_eq]; exact iff_of_false (by simp) (by simp)

/-! Occurrences by their paths. -/

mutual

/-- The paths of a tree in preorder. -/
def preorderPaths : Declaration → List (List Nat)
  | ⟨_, _, _, _, _, _, _, children⟩ => [] :: preorderPathsFrom 0 children

/-- The paths of trees that are numbered from a place on, in preorder. -/
def preorderPathsFrom (i : Nat) : List Declaration → List (List Nat)
  | [] => []
  | d :: ds => (preorderPaths d).map (i :: ·) ++ preorderPathsFrom (i + 1) ds

end

mutual

theorem preorderPaths_perm : (d : Declaration) → d.preorderPaths.Perm d.paths
  | ⟨_, _, _, _, _, _, _, children⟩ =>
    ((preorderPathsFrom_perm 0 children).cons []).trans (List.perm_append_singleton [] _).symm

theorem preorderPathsFrom_perm (i : Nat) :
    (ds : List Declaration) → (preorderPathsFrom i ds).Perm (pathsFrom i ds)
  | [] => .refl _
  | d :: ds => ((preorderPaths_perm d).map _).append (preorderPathsFrom_perm (i + 1) ds)

end

mutual

theorem preorderPaths_pairwise : (d : Declaration) → d.preorderPaths.Pairwise (· < ·)
  | ⟨_, _, _, _, _, _, _, children⟩ => by
    refine List.pairwise_cons.mpr ⟨?_, preorderPathsFrom_pairwise 0 children⟩
    intro path mem
    obtain ⟨j, child, rest, -, rfl, -⟩ :=
      (mem_pathsFrom_iff children).mp ((preorderPathsFrom_perm 0 children).mem_iff.mp mem)
    exact List.nil_lt_cons _ _

theorem preorderPathsFrom_pairwise (i : Nat) :
    (ds : List Declaration) → (preorderPathsFrom i ds).Pairwise (· < ·)
  | [] => .nil
  | d :: ds => by
    refine List.pairwise_append.mpr ⟨?_, preorderPathsFrom_pairwise (i + 1) ds, ?_⟩
    · apply List.pairwise_map.mpr
      apply (preorderPaths_pairwise d).imp
      exact fun before => List.cons_lt_cons_iff.mpr (.inr ⟨rfl, before⟩)
    · intro path hpath other hother
      obtain ⟨rest, -, rfl⟩ := List.mem_map.mp hpath
      obtain ⟨j, child, rest', -, rfl, -⟩ :=
        (mem_pathsFrom_iff ds).mp ((preorderPathsFrom_perm (i + 1) ds).mem_iff.mp hother)
      exact List.cons_lt_cons_iff.mpr (.inl (by omega))

end

mutual

theorem map_at?_preorderPaths : (d : Declaration) →
    d.preorderPaths.map d.at? = d.preorder.map some
  | ⟨kind, name, offset, length, access, documentation, inherits, children⟩ => by
    rw [preorder_eq, preorderPaths, List.map_cons, List.map_cons, at?_nil]
    exact congrArg _ (map_at?_preorderPathsFrom [] children rfl)

/-- The paths through the last children of a declaration lead to what these hold. -/
theorem map_at?_preorderPathsFrom {d : Declaration} (before : List Declaration) :
    (ds : List Declaration) → d.children = before ++ ds →
      (preorderPathsFrom before.length ds).map d.at? = (preorderAll ds).map some
  | [], _ => rfl
  | child :: ds, parts => by
    have found : d.children[before.length]? = some child := by rw [parts]; simp
    have mine : (child.preorderPaths.map (before.length :: ·)).map d.at? =
        child.preorder.map some := by
      rw [List.map_map, ← map_at?_preorderPaths child]
      exact List.map_congr_left fun path _ => at?_of_child found path
    have others := map_at?_preorderPathsFrom (before ++ [child]) ds (by simpa using parts)
    rw [List.length_append, List.length_singleton] at others
    rw [preorderPathsFrom, preorderAll, List.map_append, List.map_append, mine, others]

end

/-- The walk of a tree is its listing in preorder, step by step: after any number of steps the first
so many declarations were visited, and the trees on the stack from its end on list the others. The
stack is empty after as many steps as there are declarations and not before. The walk meets every
occurrence once, in the order of their paths. -/
theorem walk_visits_in_preorder (d : Declaration) :
    d.walk = d.preorder ∧
      (∀ n, (visit n [d]).1 = d.preorder.take n ∧
        preorderAll (visit n [d]).2.reverse = d.preorder.drop n ∧
        walkStack (visit n [d]).2.reverse = d.preorder.drop n ∧
        (next? (visit n [d]).2 = none ↔ d.weight ≤ n)) ∧
      ∃ met : List (List Nat), met.Pairwise (· < ·) ∧
        (∀ path, path ∈ met ↔ (d.at? path).isSome) ∧ met.map d.at? = d.walk.map some := by
  refine ⟨walk_eq_preorder d, ?_, d.preorderPaths, preorderPaths_pairwise d, ?_, ?_⟩
  · intro n
    have alone : preorderAll [d].reverse = d.preorder := by
      rw [List.reverse_singleton, preorderAll, preorderAll, List.append_nil]
    obtain ⟨visited, left⟩ := visit_spec n [d]
    rw [alone] at visited left
    refine ⟨visited, left, (walkStack_eq_preorderAll _).trans left, ?_⟩
    calc next? (visit n [d]).2 = none
        ↔ (visit n [d]).2 = [] := next?_eq_none_iff
      _ ↔ (visit n [d]).2.reverse = [] := List.reverse_eq_nil_iff.symm
      _ ↔ d.preorder.drop n = [] := by rw [← preorderAll_eq_nil_iff, left]
      _ ↔ d.weight ≤ n := by rw [List.drop_eq_nil_iff, length_preorder]
  · exact fun path => (preorderPaths_perm d).mem_iff.trans (mem_paths_iff d)
  · rw [walk_eq_preorder]
    exact map_at?_preorderPaths d

end SwiftStyle.Declaration
