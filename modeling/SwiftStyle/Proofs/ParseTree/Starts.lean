import SwiftStyle.Proofs.ParseTree.Functions
import SwiftStyle.Proofs.ParseTree.ImpliedAccess
import SwiftStyle.Proofs.Text.Places

/-!
Where declarations start: at a token, or at the name of an element of an enum case. Neither is
empty, so a declaration never starts at the end of its text.
-/

namespace SwiftStyle

theorem Token.subset_of_between (start stop : Nat) (tokens : List Token) :
    Token.between start stop tokens ⊆ tokens :=
  fun _ mem => List.mem_of_mem_take (List.mem_of_mem_drop mem)

namespace ParseTree

/-! Nodes below nodes. -/

theorem subset_nodesIn {node : ParseTree} {trees : List ParseTree} (mem : node ∈ trees) :
    node.nodes ⊆ nodesIn trees := by
  induction trees with
  | nil => exact absurd mem List.not_mem_nil
  | cons tree trees ih =>
    rw [nodesIn]
    rcases List.mem_cons.mp mem with rfl | later
    · exact List.subset_append_left _ _
    · exact List.subset_append_of_subset_right _ (ih later)

theorem subset_nodes_of_child {node child : ParseTree} (mem : child ∈ node.children) :
    child.nodes ⊆ node.nodes := by
  rw [nodes_eq node]
  exact List.subset_cons_of_subset _ (subset_nodesIn mem)

mutual

theorem nodes_subset : (tree : ParseTree) → {node : ParseTree} → node ∈ tree.nodes →
    node.nodes ⊆ tree.nodes
  | ⟨kind, field, start, stop, isNamed, isMissing, children⟩, node, mem => by
    rw [nodes_eq] at mem
    rcases List.mem_cons.mp mem with rfl | below
    · exact List.Subset.refl _
    · rw [nodes_eq ⟨kind, field, start, stop, isNamed, isMissing, children⟩]
      exact List.subset_cons_of_subset _ (nodesIn_subset children below)

theorem nodesIn_subset : (trees : List ParseTree) → {node : ParseTree} → node ∈ nodesIn trees →
    node.nodes ⊆ nodesIn trees
  | [], _, mem => by
    rw [nodesIn] at mem
    exact absurd mem List.not_mem_nil
  | tree :: trees, node, mem => by
    rw [nodesIn] at mem ⊢
    rcases List.mem_append.mp mem with first | later
    · exact List.subset_append_of_subset_left _ (nodes_subset tree first)
    · exact List.subset_append_of_subset_right _ (nodesIn_subset trees later)

end

mutual

theorem standing_subset : (tree : ParseTree) → standing tree ⊆ tree.nodes
  | ⟨kind, field, start, stop, isNamed, isMissing, children⟩ => by
    rw [standing, nodes_eq]
    split
    · exact List.subset_cons_of_subset _ (standingIn_subset children)
    · exact List.cons_subset.mpr ⟨List.mem_cons_self, List.nil_subset _⟩

theorem standingIn_subset : (trees : List ParseTree) → standingIn trees ⊆ nodesIn trees
  | [] => by
    rw [standingIn]
    exact List.nil_subset _
  | tree :: trees => by
    rw [standingIn, nodesIn]
    apply List.append_subset.mpr
    constructor
    · exact List.subset_append_of_subset_left _ (standing_subset tree)
    · exact List.subset_append_of_subset_right _ (standingIn_subset trees)

end

theorem Container.Within.standing_subset {text : String} {root : ParseTree}
    {container : Container} {d : Declaration} (h : Container.Within text root container d) :
    container.standing ⊆ root.nodes := by
  induction h with
  | ofFile =>
    rw [nodes_eq]
    exact List.subset_cons_of_subset _ (standingIn_subset root.children)
  | @ofType container outer d type inside within stands isType found made ih =>
    have below : inside.nodes ⊆ type.nodes := subset_nodes_of_child (mem_children_of_body? found)
    apply List.Subset.trans _ (List.Subset.trans below (nodes_subset root (ih stands)))
    rw [nodes_eq]
    exact List.subset_cons_of_subset _ (standingIn_subset inside.children)

/-! The starts of declarations. -/

section

variable {source : Source} {scope : Scope} {node : ParseTree} {d : Declaration}

theorem start_of_mem_addToCase {elements : List CaseElement} {child : ParseTree}
    {element : CaseElement} (mem : element ∈ addToCase source elements child) :
    (∃ known ∈ elements, element.start = known.start) ∨
      child.field = some "name" ∧ element.start = child.start := by
  unfold addToCase at mem
  split at mem
  · next isName =>
    rcases List.mem_cons.mp mem with rfl | old
    · exact .inr ⟨isName, rfl⟩
    · exact .inl ⟨element, old, rfl⟩
  · cases elements with
    | nil => exact absurd mem List.not_mem_nil
    | cons last earlier =>
      left
      dsimp only at mem
      split at mem
      · rcases List.mem_cons.mp mem with rfl | old
        · exact ⟨last, List.mem_cons_self, rfl⟩
        · exact ⟨element, List.mem_cons_of_mem _ old, rfl⟩
      · split at mem
        · rcases List.mem_cons.mp mem with rfl | old
          · exact ⟨last, List.mem_cons_self, rfl⟩
          · exact ⟨element, List.mem_cons_of_mem _ old, rfl⟩
        · exact ⟨element, mem, rfl⟩

/-- The elements of an enum case start at its names. -/
theorem exists_name_of_mem_caseElements {element : CaseElement}
    (mem : element ∈ caseElements source node) :
    ∃ name ∈ node.children, name.field = some "name" ∧ element.start = name.start := by
  have grown (children : List ParseTree) : ∀ elements : List CaseElement,
      element ∈ children.foldl (addToCase source) elements →
        (∃ known ∈ elements, element.start = known.start) ∨
          ∃ name ∈ children, name.field = some "name" ∧ element.start = name.start := by
    induction children with
    | nil => exact fun elements mem => .inl ⟨element, mem, rfl⟩
    | cons child children ih =>
      intro elements mem
      rcases ih _ mem with ⟨known, added, same⟩ | ⟨name, later, isName, same⟩
      · rcases start_of_mem_addToCase added with ⟨old, mem, same'⟩ | ⟨isName, same'⟩
        · exact .inl ⟨old, mem, same.trans same'⟩
        · exact .inr ⟨child, List.mem_cons_self, isName, same.trans same'⟩
      · exact .inr ⟨name, List.mem_cons_of_mem _ later, isName, same⟩
  rcases grown node.children [] (List.mem_reverse.mp mem) with ⟨known, none, -⟩ | named
  · exact absurd none List.not_mem_nil
  · exact named

theorem offset_of_mem_enumCase (h : d ∈ enumCase source scope node) :
    d.offset = source.startOf node ∨
      ∃ name ∈ node.children, name.field = some "name" ∧ d.offset = name.start := by
  obtain ⟨element, mem, start, (rfl | rfl), rfl⟩ := exists_element_of_mem_enumCase h
  · exact .inl rfl
  · exact .inr (exists_name_of_mem_caseElements mem)

/-- All declarations but the elements of an enum case start where their nodes do without the
comments before them, and have the documentation from there. -/
theorem mem_enumCase_or_starts (notError : node.kind ≠ "ERROR")
    (h : d ∈ declarations source scope node) : node.kind ∈ declaringKinds ∧
      (node.kind = "enum_entry" ∧ d ∈ enumCase source scope node ∨
        d.offset = source.startOf node ∧
          d.documentation = source.documentationBefore (source.startOf node)) := by
  by_cases isType : node.kind ∈ typeKinds
  · rw [declarations_of_mem_typeKinds isType] at h
    obtain rfl := List.mem_singleton.mp h
    exact ⟨by simp [declaringKinds, isType], .inr ⟨rfl, rfl⟩⟩
  by_cases isFunction : node.kind ∈ functionKinds
  · rw [declarations_of_mem_functionKinds isFunction] at h
    obtain rfl := List.mem_singleton.mp h
    exact ⟨by simp [declaringKinds, isFunction], .inr ⟨rfl, rfl⟩⟩
  by_cases isVariable : node.kind ∈ variableKinds
  · rw [declarations_of_mem_variableKinds isVariable] at h
    obtain rfl := List.mem_singleton.mp h
    exact ⟨by simp [declaringKinds, isVariable], .inr ⟨rfl, rfl⟩⟩
  by_cases isAlias : node.kind = "typealias_declaration"
  · rw [declarations_of_typealias isAlias] at h
    obtain rfl := List.mem_singleton.mp h
    exact ⟨by simp [declaringKinds, isAlias], .inr ⟨rfl, rfl⟩⟩
  by_cases isEntry : node.kind = "enum_entry"
  · rw [declarations_of_enum_entry isEntry] at h
    exact ⟨by simp [declaringKinds, isEntry], .inl ⟨isEntry, h⟩⟩
  · rw [declarations_of_other isType isFunction isVariable isAlias isEntry notError] at h
    exact absurd h List.not_mem_nil

/-- A declaration starts where its node does without the comments before it, or at the name of an
element of an enum case. -/
theorem offset_of_mem_declarations (notError : node.kind ≠ "ERROR")
    (h : d ∈ declarations source scope node) : node.kind ∈ declaringKinds ∧
      (d.offset = source.startOf node ∨ node.kind = "enum_entry" ∧
        ∃ name ∈ node.children, name.field = some "name" ∧ d.offset = name.start) := by
  obtain ⟨declares, ⟨isEntry, element⟩ | ⟨starts, -⟩⟩ := mem_enumCase_or_starts notError h
  · exact ⟨declares, (offset_of_mem_enumCase element).imp_right (⟨isEntry, ·⟩)⟩
  · exact ⟨declares, .inl starts⟩

end

/-! Trees that fit their text. -/

/-- Whether a tree is one that its text can be read by: its nodes stand inside each other on
characters of the text, what is read as a declaration holds more than comments, and the names of
enum cases are not empty. -/
structure Fits (text : String) (root : ParseTree) : Prop where
  nested : root.Nested
  onCharacters : ∀ node ∈ root.nodes, OnCharacters text.toList node
  hasToken : ∀ node ∈ root.nodes, node.kind ∈ declaringKinds →
    ∃ t ∈ (sourceOf text root).tokensOf node, t.isComment = false
  namesFilled : ∀ node ∈ root.nodes, node.kind = "enum_entry" →
    ∀ name ∈ node.children, name.field = some "name" → name.start < name.stop

namespace Fits

variable {text : String} {root : ParseTree}

theorem isCharacter_of_lt (fits : Fits text root) {node : ParseTree} (mem : node ∈ root.nodes)
    (filled : node.start < node.stop) : Text.IsCharacter text node.start := by
  obtain ⟨starts, stops⟩ := fits.onCharacters node mem
  have within := Text.le_size_of_isBoundary stops
  rw [Text.size_toList] at within
  exact ⟨Nat.lt_of_lt_of_le filled within, starts⟩

theorem isCharacter_token (fits : Fits text root) {t : Token}
    (mem : t ∈ tokens text.toList root) : Text.IsCharacter text t.offset := by
  obtain ⟨node, below, starts, stops⟩ := exists_node_of_mem_tokensOfStack mem
  have length := (tokens_inOrder fits.nested).nonempty t mem
  rw [starts]
  apply fits.isCharacter_of_lt (by simpa [nodesIn] using below)
  rw [← starts, ← stops, Token.stop]
  omega

theorem isCharacter_startOf (fits : Fits text root) {node : ParseTree} (mem : node ∈ root.nodes)
    (declares : node.kind ∈ declaringKinds) :
    Text.IsCharacter text ((sourceOf text root).startOf node) := by
  obtain ⟨t, first⟩ := Source.exists_firstToken (tokens_inOrder fits.nested).sorted
    (fits.hasToken node mem declares)
  rw [first.startOf_eq]
  exact fits.isCharacter_token first.mem

theorem isCharacter_of_gives (fits : Fits text root) {container : Container}
    {parent d : Declaration} {node : ParseTree}
    (gives : Container.Gives text root container parent node d) : Text.IsCharacter text d.offset := by
  have mem := gives.within.standing_subset gives.stands
  obtain ⟨declares, starts | ⟨isEntry, name, child, isName, starts⟩⟩ :=
    offset_of_mem_declarations (kind_ne_error_of_standing gives.stands) gives.made
  · rw [starts]
    exact fits.isCharacter_startOf mem declares
  · rw [starts]
    apply fits.isCharacter_of_lt _ (fits.namesFilled node mem isEntry name child isName)
    apply nodes_subset root mem
    apply subset_nodes_of_child child
    rw [nodes_eq]
    exact List.mem_cons_self

/-- All that a file declares starts at a character of its text. -/
theorem isCharacter_of_mem_walk (fits : Fits text root) {d : Declaration}
    (visited : d ∈ (outline text root).root.walk) (declared : d.kind ≠ .sourceFile) :
    Text.IsCharacter text d.offset := by
  rcases Declaration.exists_parent_of_mem_walkStack visited with top | ⟨parent, inWalk, child⟩
  · obtain rfl := List.mem_singleton.mp top
    exact absurd rfl declared
  rcases Container.exists_within_of_mem_walk parent inWalk with childless | ⟨container, within⟩
  · rw [childless] at child
    exact absurd child List.not_mem_nil
  · obtain ⟨node, gives⟩ := within.exists_gives child
    exact fits.isCharacter_of_gives gives

end Fits

end ParseTree

end SwiftStyle
