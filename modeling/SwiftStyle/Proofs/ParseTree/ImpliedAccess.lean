import SwiftStyle.Proofs.Declaration.Nesting
import SwiftStyle.Proofs.ParseTree.Containment
import SwiftStyle.Proofs.ParseTree.Members

/-!
Where the access of a declaration comes from when it spells none. The file and the body of each type
are containers. What stands in a container is read in its scope, and the scope of a body is made
from the type alone, so that nothing counts but the type directly around a declaration.
-/

namespace SwiftStyle.ParseTree

inductive Container where
  | file (root : ParseTree)
  | body (type inside : ParseTree)

namespace Container

def scope (source : Source) : Container → Scope
  | file _ => .file
  | body type _ => typeScope (typeKind source type) (source.modifiersOf type)

/-- The nodes in a container. Those in an error node stand in its place. -/
def standing : Container → List ParseTree
  | file root => standingIn root.children
  | body _ inside => standingIn inside.children

/-- The containers of a tree, each with the declaration that it is the inside of. -/
inductive Within (text : String) (root : ParseTree) : Container → Declaration → Prop where
  | ofFile : Within text root (file root) (outline text root).root
  | ofType {container : Container} {outer d : Declaration} {type inside : ParseTree}
      (within : Within text root container outer) (stands : type ∈ container.standing)
      (isType : type.kind ∈ typeKinds) (found : body? type = some inside)
      (made : d ∈ declarations (sourceOf text root) (container.scope (sourceOf text root)) type) :
      Within text root (body type inside) d

/-- A node in a container makes a declaration there. -/
structure Gives (text : String) (root : ParseTree) (container : Container) (parent : Declaration)
    (node : ParseTree) (d : Declaration) : Prop where
  within : Within text root container parent
  stands : node ∈ container.standing
  made : d ∈ declarations (sourceOf text root) (container.scope (sourceOf text root)) node

/-- The access of a declaration that spells none. A type never has another than the default. -/
def impliedAccess (source : Source) (parent : Declaration) (node : ParseTree) :
    Container → Access
  | file _ => .internal
  | body type _ =>
    if node.kind ∈ typeKinds then .internal
    else if node.kind = "enum_entry" then
      if parent.kind = .enumType then parent.access else .internal
    else if parent.kind = .protocolType then parent.access
    else if parent.kind = .extensionBlock then
      (source.modifiersOf type).visibility.getD .internal
    else .internal

end Container

section

variable {node : ParseTree}

mutual

theorem kind_ne_error_of_mem_standing : (tree : ParseTree) → node ∈ standing tree →
    node.kind ≠ "ERROR"
  | ⟨kind, field, start, stop, isNamed, isMissing, children⟩, h => by
    rw [standing] at h
    split at h
    · exact kind_ne_error_of_mem_standingIn children h
    · next other =>
      obtain rfl := List.mem_singleton.mp h
      exact other

theorem kind_ne_error_of_mem_standingIn : (trees : List ParseTree) → node ∈ standingIn trees →
    node.kind ≠ "ERROR"
  | [], h => by
    rw [standingIn] at h
    exact absurd h List.not_mem_nil
  | tree :: trees, h => by
    rw [standingIn] at h
    exact (List.mem_append.mp h).elim (kind_ne_error_of_mem_standing tree)
      (kind_ne_error_of_mem_standingIn trees)

end

theorem kind_ne_error_of_standing {container : Container} (h : node ∈ container.standing) :
    node.kind ≠ "ERROR" := by
  cases container with
  | file root => exact kind_ne_error_of_mem_standingIn root.children h
  | body type inside => exact kind_ne_error_of_mem_standingIn inside.children h

end

namespace Container

variable {text : String} {root node : ParseTree} {container : Container} {parent d : Declaration}

/-- The declaration of a type whose body is a container. -/
theorem Within.eq_typeDeclaration {type inside : ParseTree}
    (h : Within text root (body type inside) d) :
    d = typeDeclaration (sourceOf text root) type
      (declarationsIn (sourceOf text root) ((body type inside).scope (sourceOf text root))
        inside.children) := by
  cases h with
  | ofType within stands isType found made =>
    rw [declarations_of_mem_typeKinds isType, found] at made
    exact List.mem_singleton.mp made

theorem Within.kind_and_access {type inside : ParseTree}
    (h : Within text root (body type inside) d) :
    d.kind = typeKind (sourceOf text root) type ∧
      d.access = accessWith ((sourceOf text root).modifiersOf type) none := by
  rw [h.eq_typeDeclaration]
  exact ⟨rfl, rfl⟩

/-- The children of a declaration are made by the nodes that stand inside of it. -/
theorem Within.children_eq (h : Within text root container parent) :
    parent.children = container.standing.flatMap
      (declarations (sourceOf text root) (container.scope (sourceOf text root))) := by
  cases container with
  | file tree =>
    cases h
    exact declarationsIn_eq (sourceOf text root) .file root.children
  | body type inside =>
    rw [h.eq_typeDeclaration]
    exact declarationsIn_eq _ _ inside.children

theorem Gives.mem_children (h : Gives text root container parent node d) : d ∈ parent.children := by
  rw [h.within.children_eq]
  exact List.mem_flatMap.mpr ⟨node, h.stands, h.made⟩

theorem Within.exists_gives (h : Within text root container parent) (child : d ∈ parent.children) :
    ∃ node, Gives text root container parent node d := by
  rw [h.children_eq] at child
  obtain ⟨node, stands, made⟩ := List.mem_flatMap.mp child
  exact ⟨node, h, stands, made⟩

/-- What a node makes has nothing inside, or is itself around a container. -/
theorem Gives.inside (h : Gives text root container parent node d) :
    d.children = [] ∨ ∃ inner, Within text root inner d := by
  rcases mem_declarations_cases (kind_ne_error_of_standing h.stands) h.made with
    ⟨isType, rfl⟩ | ⟨-, childless, -⟩
  · cases found : body? node with
    | none => exact .inl rfl
    | some inside => exact .inr ⟨body node inside, h.within.ofType h.stands isType found (found ▸ h.made)⟩
  · exact .inl childless

theorem Within.mem_walk (h : Within text root container parent) :
    parent ∈ (outline text root).root.walk := by
  induction h with
  | ofFile => exact Declaration.mem_walkStack_of_mem (List.mem_singleton_self _)
  | ofType within stands _ _ made ih =>
    exact Declaration.mem_walkStack_of_child ih (Gives.mem_children ⟨within, stands, made⟩)

theorem exists_within_of_mem_walk :
    ∀ parent ∈ (outline text root).root.walk,
      parent.children = [] ∨ ∃ container, Within text root container parent := by
  apply Declaration.forall_mem_walkStack
  · rintro parent (childless | ⟨container, within⟩) d child
    · rw [childless] at child
      exact absurd child List.not_mem_nil
    · obtain ⟨node, gives⟩ := within.exists_gives child
      exact gives.inside
  · intro top htop
    obtain rfl := List.mem_singleton.mp htop
    exact .inr ⟨file root, .ofFile⟩

theorem Gives.access_eq (h : Gives text root container parent node d)
    (unspelled : ((sourceOf text root).modifiersOf node).visibility = none) :
    d.access = impliedAccess (sourceOf text root) parent node container := by
  rcases mem_declarations_cases (kind_ne_error_of_standing h.stands) h.made with
    ⟨isType, rfl⟩ | ⟨notType, -, access⟩
  · change accessWith _ none = _
    cases container <;> simp [impliedAccess, accessWith, unspelled, isType]
  · rw [access, accessWith, unspelled, Option.none_or]
    cases container with
    | file tree =>
      rw [impliedAccess]
      split <;> rfl
    | body type inside =>
      obtain ⟨kind, level⟩ := h.within.kind_and_access
      rw [impliedAccess, if_neg notType, kind, level]
      -- the scope of the body tells the same kinds of types apart
      simp only [scope, typeScope]
      grind

/-- All declarations of an outline are given by nodes in the containers of the tree, and one that
spells no access has what the container implies. -/
theorem outline_impliedAccess (text : String) (root : ParseTree) :
    (∀ parent ∈ (outline text root).root.walk, ∀ d ∈ parent.children,
      ∃ container node, Gives text root container parent node d) ∧
    ∀ container parent node d, Gives text root container parent node d →
      parent ∈ (outline text root).root.walk ∧ d ∈ parent.children ∧
        (((sourceOf text root).modifiersOf node).visibility = none →
          d.access = impliedAccess (sourceOf text root) parent node container) := by
  constructor
  · intro parent visited d child
    rcases exists_within_of_mem_walk parent visited with childless | ⟨container, within⟩
    · rw [childless] at child
      exact absurd child List.not_mem_nil
    · obtain ⟨node, gives⟩ := within.exists_gives child
      exact ⟨container, node, gives⟩
  · intro container parent node d gives
    exact ⟨gives.within.mem_walk, gives.mem_children, gives.access_eq⟩

/-- The method in `public extension E{func f() struct S{var x}}`. -/
def recoveredMethod : ParseTree :=
  inner "function_declaration" 19 27 [leaf "func" 19 23,
    { inner "simple_identifier" 24 25 [] with field := some "name" }, leaf "(" 25 26,
    leaf ")" 26 27]

def nestedStruct : ParseTree :=
  inner "class_declaration" 28 43 [{ leaf "struct" 28 34 with field := some "declaration_kind" },
    { inner "type_identifier" 35 36 [] with field := some "name" },
    inner "class_body" 36 43 [leaf "\x7b" 36 37,
      inner "property_declaration" 37 42 [
        inner "value_binding_pattern" 37 40 [leaf "var" 37 40],
        { inner "simple_identifier" 41 42 [] with field := some "name" }],
      leaf "\x7d" 42 43]]

def extensionBody : ParseTree :=
  inner "class_body" 18 44 [leaf "\x7b" 18 19, inner "ERROR" 19 27 [recoveredMethod],
    nestedStruct, leaf "\x7d" 43 44]

def publicExtension : ParseTree :=
  inner "class_declaration" 0 44 [
    inner "modifiers" 0 6 [inner "visibility_modifier" 0 6 [leaf "public" 0 6]],
    { leaf "extension" 7 16 with field := some "declaration_kind" },
    { inner "user_type" 17 18 [] with field := some "name" }, extensionBody]

def extensionText : String := "public extension E\x7bfunc f() struct S\x7bvar x\x7d\x7d"

def extensionFile : ParseTree := inner "source_file" 0 44 [publicExtension]

theorem exists_within_extensionBody :
    ∃ parent, Within extensionText extensionFile (body publicExtension extensionBody) parent := by
  have stands : publicExtension ∈ (file extensionFile).standing := List.mem_singleton_self _
  have isType : publicExtension.kind ∈ typeKinds := by decide
  obtain ⟨parent, made⟩ := exists_declarations_eq (.inl isType)
  exact ⟨parent, Within.ofFile.ofType stands isType rfl (made ▸ List.mem_singleton_self parent)⟩

theorem outline_impliedAccess_recoveredMethod :
    ∃ parent d,
      Gives extensionText extensionFile (body publicExtension extensionBody) parent
        recoveredMethod d ∧
      d ∈ parent.children ∧ d.access = .public := by
  obtain ⟨parent, within⟩ := exists_within_extensionBody
  have stands : recoveredMethod ∈ (body publicExtension extensionBody).standing :=
    List.mem_cons_of_mem _ List.mem_cons_self
  have isFunction : recoveredMethod.kind ∈ functionKinds := by decide
  obtain ⟨d, made⟩ := exists_declarations_eq (.inr (.inl isFunction))
  have gives : Gives _ _ _ _ _ d := ⟨within, stands, made ▸ List.mem_singleton_self d⟩
  obtain ⟨-, child, access⟩ := (outline_impliedAccess extensionText extensionFile).2 _ _ _ _ gives
  refine ⟨parent, d, gives, child, (access (by decide +kernel)).trans ?_⟩
  rw [within.eq_typeDeclaration]
  decide +kernel

/-- A type in an extension that spells an access does not have it. -/
theorem nestedStruct_in_publicExtension :
    ∃ parent d,
      Gives extensionText extensionFile (body publicExtension extensionBody) parent
        nestedStruct d ∧
      parent.kind = .extensionBlock ∧
      ((sourceOf extensionText extensionFile).modifiersOf publicExtension).visibility
        = some .public ∧
      ((sourceOf extensionText extensionFile).modifiersOf nestedStruct).visibility = none ∧
      d.access = .internal := by
  obtain ⟨parent, within⟩ := exists_within_extensionBody
  have stands : nestedStruct ∈ (body publicExtension extensionBody).standing :=
    List.mem_cons_of_mem _ (List.mem_cons_of_mem _ List.mem_cons_self)
  have isType : nestedStruct.kind ∈ typeKinds := by decide
  obtain ⟨d, made⟩ := exists_declarations_eq (.inl isType)
  have gives : Gives _ _ _ _ _ d := ⟨within, stands, made ▸ List.mem_singleton_self d⟩
  have unspelled : ((sourceOf extensionText extensionFile).modifiersOf nestedStruct).visibility
      = none := by decide +kernel
  refine ⟨parent, d, gives, ?_, by decide +kernel, unspelled, gives.access_eq unspelled⟩
  rw [within.eq_typeDeclaration]
  decide +kernel

end Container

end SwiftStyle.ParseTree
