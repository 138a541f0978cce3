import SwiftStyle.Proofs.Declaration.Nesting

/-!
Declarations whose bytes went elsewhere, by what became of offsets.
-/

namespace SwiftStyle.Declaration

mutual

/-- A tree of declarations with other offsets in place of those where they start and stop. -/
def relocate (move : Nat → Nat) : Declaration → Declaration
  | ⟨kind, name, offset, length, access, documentation, inherits, children⟩ =>
    ⟨kind, name, move offset, move (offset + length) - move offset, access, documentation, inherits,
      relocateAll move children⟩

def relocateAll (move : Nat → Nat) : List Declaration → List Declaration
  | [] => []
  | d :: ds => relocate move d :: relocateAll move ds

end

@[simp]
theorem kind_relocate (move : Nat → Nat) (d : Declaration) : (d.relocate move).kind = d.kind := by
  cases d
  rfl

@[simp]
theorem offset_relocate (move : Nat → Nat) (d : Declaration) :
    (d.relocate move).offset = move d.offset := by
  cases d
  rfl

theorem stop_relocate {move : Nat → Nat} {d : Declaration} (ordered : move d.offset ≤ move d.stop) :
    (d.relocate move).stop = move d.stop := by
  cases d
  exact Nat.add_sub_cancel' ordered

mutual

theorem preorder_relocate (move : Nat → Nat) :
    (d : Declaration) → (d.relocate move).preorder = d.preorder.map (relocate move)
  | ⟨_, _, _, _, _, _, _, children⟩ => by
    rw [preorder_eq, preorder_eq, List.map_cons]
    exact congrArg _ (preorderAll_relocateAll move children)

theorem preorderAll_relocateAll (move : Nat → Nat) : (ds : List Declaration) →
    preorderAll (relocateAll move ds) = (preorderAll ds).map (relocate move)
  | [] => rfl
  | d :: ds => by
    simp only [relocateAll, preorderAll, List.map_append, preorder_relocate move d,
      preorderAll_relocateAll move ds]

end

theorem walk_relocate (move : Nat → Nat) (d : Declaration) :
    (d.relocate move).walk = d.walk.map (relocate move) := by
  rw [walk_eq_preorder, walk_eq_preorder, preorder_relocate]

end SwiftStyle.Declaration
