import SwiftStyle.ParseTree.Tokens
import SwiftStyle.Proofs.Token.Range

/-!
Parse trees whose nodes stand inside their parents, one after the other. Their tokens follow each
other in the text.
-/

namespace SwiftStyle.ParseTree

mutual

/-- Whether all nodes of a tree stand inside their parents, one after the other. -/
def Nested : ParseTree → Prop
  | ⟨_, _, start, stop, _, _, children⟩ => NestedIn start stop children

/-- Whether trees stand one after the other between two offsets. -/
def NestedIn (start stop : Nat) : List ParseTree → Prop
  | [] => start ≤ stop
  | node :: nodes => start ≤ node.start ∧ Nested node ∧ NestedIn node.stop stop nodes

end

theorem nested_iff (node : ParseTree) :
    node.Nested ↔ NestedIn node.start node.stop node.children := by
  cases node; rfl

mutual

theorem Nested.le : (node : ParseTree) → node.Nested → node.start ≤ node.stop
  | ⟨_, _, _, _, _, _, children⟩, h => NestedIn.le children h

theorem NestedIn.le {start stop : Nat} : (nodes : List ParseTree) →
    NestedIn start stop nodes → start ≤ stop
  | [], h => h
  | node :: nodes, h =>
    Nat.le_trans h.1 (Nat.le_trans (Nested.le node h.2.1) (NestedIn.le nodes h.2.2))

end

theorem NestedIn.append {start middle stop : Nat} {xs ys : List ParseTree}
    (h : NestedIn start middle xs) (h' : NestedIn middle stop ys) :
    NestedIn start stop (xs ++ ys) := by
  induction xs generalizing start with
  | nil =>
    cases ys with
    | nil => exact Nat.le_trans h h'
    | cons y ys => exact ⟨Nat.le_trans h h'.1, h'.2⟩
  | cons x xs ih => exact ⟨h.1, h.2.1, ih h.2.2⟩

/-- A node can give its place to its children. -/
theorem NestedIn.expand {start stop : Nat} {node : ParseTree} {nodes : List ParseTree}
    (h : NestedIn start stop (node :: nodes)) : NestedIn start stop (node.children ++ nodes) := by
  have inside := (nested_iff node).mp h.2.1
  have before : NestedIn start node.start [] := h.1
  exact (before.append inside).append h.2.2

theorem token?_eq_some {kind : TokenKind} {node : ParseTree} {t : Token}
    (h : token? kind node = some t) :
    t.offset = node.start ∧ t.stop = node.stop ∧ 0 < t.length := by
  unfold token? at h
  split at h
  · next shown =>
    simp only [Bool.and_eq_true, decide_eq_true_eq] at shown
    cases h
    simp only [Token.stop, true_and]
    omega
  · cases h

/-- The tokens of trees that stand one after the other follow each other between them. -/
theorem tokensOfStack_spec {source : List Char} {start stop : Nat} {stack : List ParseTree}
    (h : NestedIn start stop stack) :
    Token.InOrder (tokensOfStack source stack) ∧
      ∀ t ∈ tokensOfStack source stack, start ≤ t.offset ∧ t.stop ≤ stop := by
  fun_induction tokensOfStack source stack generalizing start with
  | case1 => exact ⟨⟨.nil, by simp⟩, by simp⟩
  | case2 node stack kind whole ih =>
    obtain ⟨⟨disjoint, nonempty⟩, within⟩ := ih h.2.2
    have first := h.1
    have ordered := Nested.le node h.2.1
    cases token : token? kind node with
    | none =>
      refine ⟨⟨by simpa using disjoint, by simpa using nonempty⟩, ?_⟩
      intro t ht
      have := within t (by simpa using ht)
      omega
    | some t =>
      obtain ⟨hoffset, hstop, hlength⟩ := token?_eq_some token
      have last := NestedIn.le stack h.2.2
      simp only [Option.toList_some, List.cons_append, List.nil_append]
      refine ⟨⟨List.pairwise_cons.mpr ⟨?_, disjoint⟩, ?_⟩, ?_⟩
      · intro u hu
        have := within u hu
        omega
      · exact List.forall_mem_cons.mpr ⟨hlength, nonempty⟩
      · refine List.forall_mem_cons.mpr ⟨by omega, ?_⟩
        intro u hu
        have := within u hu
        omega
  | case3 node stack children ih => exact ih h.expand

theorem tokens_inOrder {source : List Char} {root : ParseTree} (h : root.Nested) :
    Token.InOrder (tokens source root) := by
  have alone : NestedIn root.start root.stop [root] := ⟨Nat.le_refl _, h, Nat.le_refl _⟩
  exact (tokensOfStack_spec alone).1

end SwiftStyle.ParseTree
