import SwiftStyle.Proofs.Declaration.Nesting
import SwiftStyle.Proofs.ParseTree.Members
import SwiftStyle.Proofs.ParseTree.TokenStream
import SwiftStyle.Proofs.Token.Spacing

/-!
The functions of an outline follow each other in the text, and so do its tokens. Only nodes of types
have declarations inside, so no function stands in another one. A function starts at a token of its
own node, so it never reaches out of the node, whatever its siblings hold.
-/

namespace SwiftStyle

/-- Declarations between two offsets follow each other. -/
theorem Declaration.NestedIn.pairwise {start stop : Nat} {ds : List Declaration}
    (h : NestedIn start stop ds) : ds.Pairwise fun a b => a.stop ≤ b.offset := by
  induction ds generalizing start with
  | nil => exact .nil
  | cons d ds ih => exact .cons (fun e he => (h.2.2.spec e he).2.1) (ih h.2.2)

namespace ParseTree

/-- The functions among declarations and all that is inside them. -/
def functionsAmong (ds : List Declaration) : List Declaration :=
  (Declaration.preorderAll ds).filter (·.kind.isFunction)

@[simp]
theorem functionsAmong_append (ds es : List Declaration) :
    functionsAmong (ds ++ es) = functionsAmong ds ++ functionsAmong es := by
  simp [functionsAmong]

theorem functionsAmong_singleton_of_function {d : Declaration} (isFunction : d.kind.isFunction)
    (childless : d.children = []) : functionsAmong [d] = [d] := by
  simp [functionsAmong, Declaration.preorderAll, Declaration.preorder_eq, childless, isFunction]

theorem functionsAmong_singleton {d : Declaration} (other : d.kind.isFunction = false) :
    functionsAmong [d] = functionsAmong d.children := by
  simp [functionsAmong, Declaration.preorderAll, Declaration.preorder_eq, other]

theorem functionsAmong_eq_nil {ds : List Declaration}
    (none : ∀ d ∈ ds, d.kind.isFunction = false ∧ d.children = []) : functionsAmong ds = [] := by
  induction ds with
  | nil => rfl
  | cons d ds ih =>
    obtain ⟨⟨other, childless⟩, rest⟩ := List.forall_mem_cons.mp none
    rw [← List.singleton_append, functionsAmong_append, functionsAmong_singleton other, childless,
      ih rest]
    rfl

section

variable {source : Source} {scope : Scope} {node : ParseTree}

theorem isFunction_typeKind (source : Source) (node : ParseTree) :
    (typeKind source node).isFunction = false := by
  unfold typeKind
  extract_lets keyword
  repeat' split
  all_goals rfl

theorem isFunction_eq_false_of_mem {d : Declaration} (notFunction : node.kind ∉ functionKinds)
    (notType : node.kind ∉ typeKinds) (notError : node.kind ≠ "ERROR")
    (h : d ∈ declarations source scope node) : d.kind.isFunction = false := by
  by_cases isVariable : node.kind ∈ variableKinds
  · rw [declarations_of_mem_variableKinds isVariable, List.mem_singleton] at h
    subst h
    simp only [property, memberKind]
    repeat' split
    all_goals rfl
  by_cases isAlias : node.kind = "typealias_declaration"
  · rw [declarations_of_typealias isAlias, List.mem_singleton] at h
    subst h
    rfl
  by_cases isEntry : node.kind = "enum_entry"
  · rw [declarations_of_enum_entry isEntry] at h
    obtain ⟨element, -, start, -, rfl⟩ := exists_element_of_mem_enumCase h
    rfl
  · rw [declarations_of_other notType notFunction isVariable isAlias isEntry notError] at h
    exact absurd h List.not_mem_nil

/-- A declaration starts inside its node. -/
theorem startOf_within (sorted : source.tokens.Pairwise fun a b => a.offset ≤ b.offset)
    (ordered : node.start ≤ node.stop) :
    node.start ≤ source.startOf node ∧ source.startOf node ≤ node.stop := by
  unfold Source.startOf
  split
  · next t found =>
    obtain ⟨-, first, last⟩ := (Token.mem_between_iff sorted).mp (List.mem_of_find?_eq_some found)
    exact ⟨first, Nat.le_of_lt last⟩
  · exact ⟨Nat.le_refl _, ordered⟩

theorem function_nestedIn (sorted : source.tokens.Pairwise fun a b => a.offset ≤ b.offset)
    (ordered : node.start ≤ node.stop) :
    Declaration.NestedIn node.start node.stop (functionsAmong [function source scope node]) := by
  obtain ⟨first, last⟩ := startOf_within sorted ordered
  cases isFunction : (function source scope node).kind.isFunction with
  | false =>
    rw [functionsAmong_singleton isFunction]
    exact ordered
  | true =>
    rw [functionsAmong_singleton_of_function isFunction rfl]
    have stop : (function source scope node).stop = node.stop := Nat.add_sub_of_le last
    exact ⟨first, (Declaration.nested_iff _).mpr (Declaration.offset_le_stop _),
      Nat.le_of_eq stop⟩

/-- What a node stands for, given what its children do. -/
theorem declarations_nestedIn (sorted : source.tokens.Pairwise fun a b => a.offset ≤ b.offset)
    (ordered : node.start ≤ node.stop)
    (inside : ∀ scope, Declaration.NestedIn node.start node.stop
      (functionsAmong (declarationsIn source scope node.children)))
    (below : ∀ child ∈ node.children, ∀ scope, Declaration.NestedIn node.start node.stop
      (functionsAmong (declarationsIn source scope child.children))) (scope : Scope) :
    Declaration.NestedIn node.start node.stop
      (functionsAmong (declarations source scope node)) := by
  by_cases isType : node.kind ∈ typeKinds
  · rw [declarations_of_mem_typeKinds isType, functionsAmong_singleton (isFunction_typeKind _ _)]
    change Declaration.NestedIn _ _ (functionsAmong (Option.getD _ _))
    cases hbody : body? node with
    | none => exact ordered
    | some body => exact below body (mem_children_of_body? hbody) _
  by_cases isFunction : node.kind ∈ functionKinds
  · rw [declarations_of_mem_functionKinds isFunction]
    exact function_nestedIn sorted ordered
  by_cases isError : node.kind = "ERROR"
  · rw [declarations_of_error isError]
    exact inside scope
  · rw [functionsAmong_eq_nil]
    · exact ordered
    · intro d hd
      refine ⟨isFunction_eq_false_of_mem isFunction isType isError hd, ?_⟩
      rcases mem_declarations_cases isError hd with ⟨found, -⟩ | ⟨-, childless, -⟩
      · exact absurd found isType
      · exact childless

end

mutual

theorem functionsAmong_nestedIn {source : Source}
    (sorted : source.tokens.Pairwise fun a b => a.offset ≤ b.offset) :
    (node : ParseTree) → node.Nested → ∀ scope,
      Declaration.NestedIn node.start node.stop
          (functionsAmong (declarations source scope node)) ∧
        Declaration.NestedIn node.start node.stop
          (functionsAmong (declarationsIn source scope node.children))
  | ⟨kind, field, start, stop, isNamed, isMissing, children⟩, nested, scope => by
    have inside := fun scope => (functionsAmong_nestedIn_all sorted children nested scope).1
    refine ⟨declarations_nestedIn sorted (Nested.le _ nested) inside ?_ scope, inside scope⟩
    exact fun child hchild scope =>
      (functionsAmong_nestedIn_all sorted children nested scope).2 child hchild

/-- The functions that nodes stand for follow each other between the offsets around the nodes, and
so do those inside the nodes. -/
theorem functionsAmong_nestedIn_all {source : Source}
    (sorted : source.tokens.Pairwise fun a b => a.offset ≤ b.offset) {start stop : Nat} :
    (nodes : List ParseTree) → NestedIn start stop nodes → ∀ scope,
      Declaration.NestedIn start stop (functionsAmong (declarationsIn source scope nodes)) ∧
        ∀ node ∈ nodes, Declaration.NestedIn start stop
          (functionsAmong (declarationsIn source scope node.children))
  | [], nested, scope => by
    rw [declarationsIn]
    exact ⟨nested, by simp⟩
  | node :: nodes, nested, scope => by
    obtain ⟨mine, inside⟩ := functionsAmong_nestedIn sorted node nested.2.1 scope
    obtain ⟨others, below⟩ := functionsAmong_nestedIn_all sorted nodes nested.2.2 scope
    have last := NestedIn.le nodes nested.2.2
    have first := Nat.le_trans nested.1 (Nested.le node nested.2.1)
    rw [declarationsIn, functionsAmong_append]
    refine ⟨(mine.lower nested.1).append others, List.forall_mem_cons.mpr ⟨?_, ?_⟩⟩
    · exact (inside.lower nested.1).mono last
    · exact fun child hchild => (below child hchild).lower first

end

/-- The functions of an outline follow each other in the text. -/
theorem functions_pairwise {text : String} {root : ParseTree} (nested : root.Nested) :
    ((outline text root).root.walk.filter (·.kind.isFunction)).Pairwise
      fun a b => a.stop ≤ b.offset := by
  let source : Source := ⟨text.toList, tokens text.toList root⟩
  have sorted : source.tokens.Pairwise fun a b => a.offset ≤ b.offset :=
    (tokens_inOrder nested).sorted
  have inside := (functionsAmong_nestedIn sorted root nested .file).2
  have whole : (outline text root).root.walk.filter (·.kind.isFunction) =
      functionsAmong (declarationsIn source .file root.children) := by
    rw [Declaration.walk_eq_preorder, Declaration.preorder_eq]
    rfl
  rw [whole]
  exact inside.pairwise

/-! Tokens of a tree whose nodes fall on characters of the text. -/

/-- A node that starts and stops between characters of a text. -/
structure OnCharacters (source : List Char) (node : ParseTree) : Prop where
  starts : Text.isBoundary node.start source = true
  stops : Text.isBoundary node.stop source = true

instance (source : List Char) (node : ParseTree) : Decidable (OnCharacters source node) :=
  decidable_of_iff
    (Text.isBoundary node.start source = true ∧ Text.isBoundary node.stop source = true)
    ⟨fun h => ⟨h.1, h.2⟩, fun h => ⟨h.starts, h.stops⟩⟩

theorem exists_node_of_mem_tokensOfStack {source : List Char} {stack : List ParseTree} {t : Token}
    (h : t ∈ tokensOfStack source stack) :
    ∃ node ∈ nodesIn stack, t.offset = node.start ∧ t.stop = node.stop := by
  fun_induction tokensOfStack source stack with
  | case1 => exact absurd h List.not_mem_nil
  | case2 node stack kind whole ih =>
    rw [nodesIn]
    rcases List.mem_append.mp h with own | later
    · obtain ⟨hoffset, hstop, -⟩ := token?_eq_some (Option.mem_toList.mp own)
      refine ⟨node, List.mem_append_left _ ?_, hoffset, hstop⟩
      rw [nodes_eq]
      exact List.mem_cons_self
    · obtain ⟨found, mem, same⟩ := ih later
      exact ⟨found, List.mem_append_right _ mem, same⟩
  | case3 node stack parts ih =>
    obtain ⟨found, mem, same⟩ := ih h
    rw [nodesIn_append] at mem
    rw [nodesIn, nodes_eq]
    exact ⟨found, List.mem_cons_of_mem _ mem, same⟩

theorem tokens_onCharacters {source : List Char} {root : ParseTree}
    (onCharacters : ∀ node ∈ root.nodes, OnCharacters source node) :
    ∀ t ∈ tokens source root, t.OnCharacters source := by
  intro t ht
  obtain ⟨node, mem, hoffset, hstop⟩ := exists_node_of_mem_tokensOfStack ht
  obtain ⟨starts, stops⟩ := onCharacters node (by simpa [nodesIn] using mem)
  exact ⟨hoffset ▸ starts, hstop ▸ stops⟩

end ParseTree

end SwiftStyle
