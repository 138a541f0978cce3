import SwiftStyle.ParseTree.Outline

/-!
What each kind of node is read as. An error node stands for its contents at any depth, and the
members of a type are what stands in its body.
-/

namespace SwiftStyle.ParseTree

/-- A leaf that the parser has no name for. -/
def leaf (kind : String) (start stop : Nat) : ParseTree :=
  ⟨kind, none, start, stop, false, false, []⟩

def inner (kind : String) (start stop : Nat) (children : List ParseTree) : ParseTree :=
  ⟨kind, none, start, stop, true, false, children⟩

section

variable {source : Source} {scope : Scope} {node : ParseTree} {d : Declaration}

theorem not_mem_typeKinds : ∀ kind ∈ functionKinds ++ variableKinds ++
    ["typealias_declaration", "enum_entry", "ERROR"], kind ∉ typeKinds := by decide

theorem not_mem_functionKinds : ∀ kind ∈ variableKinds ++
    ["typealias_declaration", "enum_entry", "ERROR"], kind ∉ functionKinds := by decide

/-- The first child that is a body by its role, else the first one that is by its kind. -/
def body? (node : ParseTree) : Option ParseTree :=
  (node.children.find? hasBodyRole).or (node.children.find? hasBodyKind)

theorem mem_children_of_body? {inside : ParseTree} (found : body? node = some inside) :
    inside ∈ node.children := by
  rcases Option.or_eq_some_iff.mp found with byRole | ⟨-, byKind⟩
  · exact List.mem_of_find?_eq_some byRole
  · exact List.mem_of_find?_eq_some byKind

theorem bodyMembers?_eq (isBody : ParseTree → Bool) (nodes : List ParseTree) :
    bodyMembers? source scope isBody nodes
      = (nodes.find? isBody).map fun body => declarationsIn source scope body.children := by
  induction nodes with
  | nil => rfl
  | cons node nodes ih =>
    obtain ⟨kind, field, start, stop, isNamed, isMissing, children⟩ := node
    rw [bodyMembers?]
    split
    · next found => rw [List.find?_cons_of_pos found, Option.map_some]
    · next other => rw [List.find?_cons_of_neg other, ih]

theorem declarations_of_mem_typeKinds (h : node.kind ∈ typeKinds) :
    declarations source scope node = [typeDeclaration source node
      (((body? node).map fun body => declarationsIn source
        (typeScope (typeKind source node) (source.modifiersOf node)) body.children).getD [])] := by
  obtain ⟨kind, field, start, stop, isNamed, isMissing, children⟩ := node
  rw [declarations, if_pos (List.contains_iff_mem.mpr h)]
  simp only [bodyMembers?_eq, body?]
  cases children.find? hasBodyRole <;> rfl

theorem declarations_of_mem_functionKinds (h : node.kind ∈ functionKinds) :
    declarations source scope node = [function source scope node] := by
  obtain ⟨kind, field, start, stop, isNamed, isMissing, children⟩ := node
  have notType := not_mem_typeKinds kind (by simp [h])
  rw [declarations, if_neg (by simpa using notType), if_pos (List.contains_iff_mem.mpr h)]

theorem declarations_of_mem_variableKinds (h : node.kind ∈ variableKinds) :
    declarations source scope node = [property source scope node] := by
  obtain ⟨kind, field, start, stop, isNamed, isMissing, children⟩ := node
  have notType := not_mem_typeKinds kind (by simp [h])
  have notFunction := not_mem_functionKinds kind (by simp [h])
  rw [declarations, if_neg (by simpa using notType), if_neg (by simpa using notFunction),
    if_pos (List.contains_iff_mem.mpr h)]

theorem declarations_of_typealias (h : node.kind = "typealias_declaration") :
    declarations source scope node = [typeAlias source scope node] := by
  obtain ⟨kind, field, start, stop, isNamed, isMissing, children⟩ := node
  obtain rfl : kind = "typealias_declaration" := h
  rw [declarations]
  rfl

theorem declarations_of_enum_entry (h : node.kind = "enum_entry") :
    declarations source scope node = enumCase source scope node := by
  obtain ⟨kind, field, start, stop, isNamed, isMissing, children⟩ := node
  obtain rfl : kind = "enum_entry" := h
  rw [declarations]
  rfl

theorem declarations_of_error (h : node.kind = "ERROR") :
    declarations source scope node = declarationsIn source scope node.children := by
  obtain ⟨kind, field, start, stop, isNamed, isMissing, children⟩ := node
  obtain rfl : kind = "ERROR" := h
  rw [declarations]
  rfl

theorem declarations_of_other (notType : node.kind ∉ typeKinds)
    (notFunction : node.kind ∉ functionKinds) (notVariable : node.kind ∉ variableKinds)
    (notAlias : node.kind ≠ "typealias_declaration") (notEntry : node.kind ≠ "enum_entry")
    (notError : node.kind ≠ "ERROR") : declarations source scope node = [] := by
  obtain ⟨kind, field, start, stop, isNamed, isMissing, children⟩ := node
  rw [declarations, if_neg (by simpa using notType), if_neg (by simpa using notFunction),
    if_neg (by simpa using notVariable), if_neg notAlias, if_neg notEntry, if_neg notError]

/-- All that is no enum case makes one declaration. -/
theorem exists_declarations_eq (h : node.kind ∈ typeKinds ∨ node.kind ∈ functionKinds ∨
    node.kind ∈ variableKinds ∨ node.kind = "typealias_declaration") :
    ∃ d, declarations source scope node = [d] := by
  rcases h with isType | isFunction | isVariable | isAlias
  · exact ⟨_, declarations_of_mem_typeKinds isType⟩
  · exact ⟨_, declarations_of_mem_functionKinds isFunction⟩
  · exact ⟨_, declarations_of_mem_variableKinds isVariable⟩
  · exact ⟨_, declarations_of_typealias isAlias⟩

/-- What an enum case makes of one of its elements: the first starts where the case does. -/
theorem exists_element_of_mem_enumCase (h : d ∈ enumCase source scope node) :
    ∃ element ∈ caseElements source node, ∃ start,
      (start = source.startOf node ∨ start = element.start) ∧
        d = caseElement (accessWith (source.modifiersOf node) scope.caseAccess)
          (source.documentationBefore (source.startOf node)) start element := by
  unfold enumCase at h
  cases elements : caseElements source node with
  | nil =>
    rw [elements] at h
    exact absurd h List.not_mem_nil
  | cons first others =>
    rw [elements] at h
    rcases List.mem_cons.mp h with rfl | other
    · exact ⟨first, List.mem_cons_self, _, .inl rfl, rfl⟩
    · obtain ⟨element, mem, rfl⟩ := List.mem_map.mp other
      exact ⟨element, List.mem_cons_of_mem _ mem, _, .inr rfl, rfl⟩

theorem mem_enumCase (h : d ∈ enumCase source scope node) :
    d.children = [] ∧ d.access = accessWith (source.modifiersOf node) scope.caseAccess := by
  obtain ⟨element, -, start, -, rfl⟩ := exists_element_of_mem_enumCase h
  exact ⟨rfl, rfl⟩

/-- Only types have declarations inside and are read without a scope. -/
theorem mem_declarations_cases (notError : node.kind ≠ "ERROR")
    (h : d ∈ declarations source scope node) :
    (node.kind ∈ typeKinds ∧ d = typeDeclaration source node
      (((body? node).map fun body => declarationsIn source
        (typeScope (typeKind source node) (source.modifiersOf node)) body.children).getD [])) ∨
    (node.kind ∉ typeKinds ∧ d.children = [] ∧ d.access = accessWith (source.modifiersOf node)
      (if node.kind = "enum_entry" then scope.caseAccess else scope.memberAccess)) := by
  by_cases isType : node.kind ∈ typeKinds
  · rw [declarations_of_mem_typeKinds isType] at h
    exact .inl ⟨isType, List.mem_singleton.mp h⟩
  refine .inr ⟨isType, ?_⟩
  by_cases isEntry : node.kind = "enum_entry"
  · rw [declarations_of_enum_entry isEntry] at h
    rw [if_pos isEntry]
    exact mem_enumCase h
  rw [if_neg isEntry]
  by_cases isFunction : node.kind ∈ functionKinds
  · rw [declarations_of_mem_functionKinds isFunction] at h
    obtain rfl := List.mem_singleton.mp h
    exact ⟨rfl, rfl⟩
  by_cases isVariable : node.kind ∈ variableKinds
  · rw [declarations_of_mem_variableKinds isVariable] at h
    obtain rfl := List.mem_singleton.mp h
    exact ⟨rfl, rfl⟩
  by_cases isAlias : node.kind = "typealias_declaration"
  · rw [declarations_of_typealias isAlias] at h
    obtain rfl := List.mem_singleton.mp h
    exact ⟨rfl, rfl⟩
  · rw [declarations_of_other isType isFunction isVariable isAlias isEntry notError] at h
    exact absurd h List.not_mem_nil

end

mutual

/-- The nodes that a node stands for: what an error node holds at any depth, else the node. -/
def standing : ParseTree → List ParseTree
  | ⟨kind, field, start, stop, isNamed, isMissing, children⟩ =>
    if kind = "ERROR" then standingIn children
    else [⟨kind, field, start, stop, isNamed, isMissing, children⟩]

def standingIn : List ParseTree → List ParseTree
  | [] => []
  | node :: nodes => standing node ++ standingIn nodes

end

mutual

theorem declarations_eq (source : Source) (scope : Scope) : (node : ParseTree) →
    declarations source scope node = (standing node).flatMap (declarations source scope)
  | ⟨kind, field, start, stop, isNamed, isMissing, children⟩ => by
    rw [standing]
    split
    · next isError =>
      rw [declarations_of_error isError]
      exact declarationsIn_eq source scope children
    · rw [List.flatMap_singleton]

/-- The declarations of nodes are those of the nodes that they stand for, one after the other. -/
theorem declarationsIn_eq (source : Source) (scope : Scope) : (nodes : List ParseTree) →
    declarationsIn source scope nodes = (standingIn nodes).flatMap (declarations source scope)
  | [] => by rw [declarationsIn, standingIn, List.flatMap_nil]
  | node :: nodes => by
    rw [declarationsIn, standingIn, List.flatMap_append, declarations_eq source scope node,
      declarationsIn_eq source scope nodes]

end

end SwiftStyle.ParseTree
