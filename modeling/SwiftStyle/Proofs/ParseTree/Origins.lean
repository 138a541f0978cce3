import SwiftStyle.Proofs.ParseTree.Starts

/-!
The nodes that the declarations of an outline come from, in the order of the walk. A type is met
before what stands in its body, and every other node but an enum case makes one declaration without
anything inside. So the walk goes along the text: from one node to the next the first tokens ascend.
-/

namespace SwiftStyle

theorem Declaration.preorderAll_of_childless {ds : List Declaration}
    (childless : ∀ d ∈ ds, d.children = []) : preorderAll ds = ds := by
  induction ds with
  | nil => rfl
  | cons d ds ih =>
    obtain ⟨first, others⟩ := List.forall_mem_cons.mp childless
    rw [preorderAll, preorder_eq, first, ih others]
    rfl

namespace ParseTree

section

variable {source : Source} {scope : Scope} {start stop : Nat} {node : ParseTree}
  {nodes : List ParseTree}

theorem NestedIn.of_mem (nested : NestedIn start stop nodes) (mem : node ∈ nodes) :
    start ≤ node.start ∧ node.Nested ∧ node.stop ≤ stop := by
  induction nodes generalizing start with
  | nil => exact absurd mem List.not_mem_nil
  | cons first nodes ih =>
    rcases List.mem_cons.mp mem with rfl | later
    · exact ⟨nested.1, nested.2.1, NestedIn.le nodes nested.2.2⟩
    · obtain ⟨starts, own, stops⟩ := ih nested.2.2 later
      exact ⟨Nat.le_trans nested.1 (Nat.le_trans (Nested.le first nested.2.1) starts), own, stops⟩

mutual

theorem Nested.standing : (node : ParseTree) → node.Nested →
    NestedIn node.start node.stop (standing node)
  | ⟨kind, field, start, stop, isNamed, isMissing, children⟩, nested => by
    rw [ParseTree.standing]
    split
    · exact NestedIn.standing children nested
    · exact ⟨Nat.le_refl _, nested, Nat.le_refl _⟩

/-- What nodes stand for is in their order and inside of them. -/
theorem NestedIn.standing {start stop : Nat} : (nodes : List ParseTree) →
    NestedIn start stop nodes → NestedIn start stop (standingIn nodes)
  | [], nested => by
    rw [standingIn]
    exact nested
  | node :: nodes, nested => by
    rw [standingIn]
    have before : NestedIn start node.start [] := nested.1
    apply before.append
    exact (Nested.standing node nested.2.1).append (NestedIn.standing nodes nested.2.2)

end

mutual

theorem weightAll_standing_le : (node : ParseTree) → weightAll (standing node) ≤ node.weight
  | ⟨kind, field, start, stop, isNamed, isMissing, children⟩ => by
    rw [standing]
    split
    · exact Nat.le_succ_of_le (weightAll_standingIn_le children)
    · exact Nat.le_refl _

theorem weightAll_standingIn_le : (nodes : List ParseTree) →
    weightAll (standingIn nodes) ≤ weightAll nodes
  | [] => by rw [standingIn]
  | node :: nodes => by
    rw [standingIn, weightAll_append, weightAll]
    exact Nat.add_le_add (weightAll_standing_le node) (weightAll_standingIn_le nodes)

end

theorem weight_le_of_mem (mem : node ∈ nodes) : node.weight ≤ weightAll nodes := by
  obtain ⟨front, back, rfl⟩ := List.append_of_mem mem
  rw [weightAll_append, weightAll]
  omega

theorem weightAll_body_lt {inside : ParseTree} (mem : node ∈ nodes)
    (found : body? node = some inside) :
    weightAll (standingIn inside.children) < weightAll nodes := by
  have below := weight_le_of_mem (mem_children_of_body? found)
  have members := weightAll_standingIn_le inside.children
  have whole := weight_le_of_mem mem
  rw [weight_eq] at below whole
  omega

/-- Only an enum case makes more than one declaration. -/
theorem declarations_eq_nil_or (notError : node.kind ≠ "ERROR")
    (notEntry : node.kind ≠ "enum_entry") :
    declarations source scope node = [] ∨ ∃ d, declarations source scope node = [d] := by
  by_cases declares : node.kind ∈ typeKinds ∨ node.kind ∈ functionKinds ∨
      node.kind ∈ variableKinds ∨ node.kind = "typealias_declaration"
  · exact .inr (exists_declarations_eq declares)
  · push Not at declares
    obtain ⟨notType, notFunction, notVariable, notAlias⟩ := declares
    exact .inl (declarations_of_other notType notFunction notVariable notAlias notEntry notError)

end

/-- Whether the nodes of a tree stand inside each other and show where declarations start: each that
is read as one holds a token that is no comment, and a type holds such a token before its body. -/
structure ShowsStarts (text : String) (root : ParseTree) : Prop where
  nested : root.Nested
  hasToken : ∀ node ∈ root.nodes, node.kind ∈ declaringKinds →
    ∃ t ∈ (sourceOf text root).tokensOf node, t.isComment = false
  beforeBody : ∀ node ∈ root.nodes, node.kind ∈ typeKinds → ∀ inside ∈ body? node,
    ∃ t ∈ (sourceOf text root).tokensOf node, t.isComment = false ∧ t.offset < inside.start

namespace ShowsStarts

variable {text : String} {root node : ParseTree} (shows : ShowsStarts text root)

include shows

theorem exists_firstToken (mem : node ∈ root.nodes) (declares : node.kind ∈ declaringKinds) :
    ∃ t, (sourceOf text root).FirstToken node t :=
  Source.exists_firstToken (tokens_inOrder shows.nested).sorted (shows.hasToken node mem declares)

theorem startOf_within (mem : node ∈ root.nodes) (declares : node.kind ∈ declaringKinds) :
    node.start ≤ (sourceOf text root).startOf node ∧
      (sourceOf text root).startOf node < node.stop := by
  obtain ⟨t, first⟩ := shows.exists_firstToken mem declares
  rw [first.startOf_eq]
  exact ⟨first.first, first.last⟩

theorem startOf_lt_body (mem : node ∈ root.nodes) (isType : node.kind ∈ typeKinds)
    {inside : ParseTree} (found : body? node = some inside) :
    (sourceOf text root).startOf node < inside.start := by
  obtain ⟨t, first⟩ := shows.exists_firstToken mem (by simp [declaringKinds, isType])
  obtain ⟨u, held, plain, before⟩ := shows.beforeBody node mem isType inside found
  obtain ⟨inText, starts, stops⟩ :=
    (Token.mem_between_iff (tokens_inOrder shows.nested).sorted).mp held
  rw [first.startOf_eq]
  exact Nat.lt_of_le_of_lt (first.least u inText plain starts stops) before

end ShowsStarts

/-- A declaration with the node that it comes from. -/
abbrev Origin := ParseTree × Declaration

/-- Whether two declarations come from one enum case, or the first one from an earlier node. -/
def Follows (source : Source) (a b : Origin) : Prop :=
  a.1 = b.1 ∧ a.1.kind = "enum_entry" ∨ source.startOf a.1 < source.startOf b.1

/-- Declarations between two offsets and all that is inside them, with the nodes that they come
from. -/
structure Traces (text : String) (root : ParseTree) (start stop : Nat) (ds : List Declaration)
    (origins : List Origin) : Prop where
  walked : origins.map Prod.snd = Declaration.preorderAll ds
  given : ∀ origin ∈ origins, ∃ container parent,
    Container.Gives text root container parent origin.1 origin.2
  within : ∀ origin ∈ origins, start ≤ (sourceOf text root).startOf origin.1 ∧
    (sourceOf text root).startOf origin.1 < stop
  ascending : origins.Pairwise (Follows (sourceOf text root))

namespace Traces

variable {text : String} {root node : ParseTree} {container : Container} {parent : Declaration}
  {start middle stop : Nat} {nodes : List ParseTree} {ds es : List Declaration}
  {origins later : List Origin}

theorem nil : Traces text root start stop [] [] where
  walked := rfl
  given := by simp
  within := by simp
  ascending := .nil

theorem append (first : Traces text root start middle ds origins)
    (second : Traces text root middle stop es later) (starts : start ≤ middle)
    (stops : middle ≤ stop) : Traces text root start stop (ds ++ es) (origins ++ later) where
  walked := by
    rw [List.map_append, first.walked, second.walked, Declaration.preorderAll_append]
  given := List.forall_mem_append.mpr ⟨first.given, second.given⟩
  within := by
    intro origin mem
    rcases List.mem_append.mp mem with early | late
    · obtain ⟨above, below⟩ := first.within origin early
      exact ⟨above, Nat.lt_of_lt_of_le below stops⟩
    · obtain ⟨above, below⟩ := second.within origin late
      exact ⟨Nat.le_trans starts above, below⟩
  ascending := by
    apply List.pairwise_append.mpr
    refine ⟨first.ascending, second.ascending, fun a ha b hb => .inr ?_⟩
    exact Nat.lt_of_lt_of_le (first.within a ha).2 (second.within b hb).1

/-- Nodes that stand one after the other are traced one by one. -/
theorem exists_flatMap {make : ParseTree → List Declaration} (nested : NestedIn start stop nodes)
    (each : ∀ node ∈ nodes, ∃ origins, Traces text root node.start node.stop (make node) origins) :
    ∃ origins, Traces text root start stop (nodes.flatMap make) origins := by
  induction nodes generalizing start with
  | nil => exact ⟨[], .nil⟩
  | cons node nodes ih =>
    obtain ⟨⟨own, first⟩, others⟩ := List.forall_mem_cons.mp each
    obtain ⟨later, second⟩ := ih nested.2.2 others
    have ordered := Nested.le node nested.2.1
    have above := Traces.nil.append first nested.1 ordered
    exact ⟨_, above.append second (Nat.le_trans nested.1 ordered)
      (NestedIn.le nodes nested.2.2)⟩

section

variable (shows : ShowsStarts text root) (within : Container.Within text root container parent)
  (stands : node ∈ container.standing)

include shows within stands

/-- A node that is no type makes declarations without anything inside. -/
theorem of_other (notType : node.kind ∉ typeKinds) : Traces text root node.start node.stop
    (declarations (sourceOf text root) (container.scope (sourceOf text root)) node)
    ((declarations (sourceOf text root) (container.scope (sourceOf text root)) node).map
      (node, ·)) where
  walked := by
    rw [List.map_map, Declaration.preorderAll_of_childless]
    · exact List.map_id _
    · intro d made
      rcases mem_declarations_cases (kind_ne_error_of_standing stands) made with
        ⟨isType, -⟩ | ⟨-, childless, -⟩
      · exact absurd isType notType
      · exact childless
  given := by
    intro origin mem
    obtain ⟨d, made, rfl⟩ := List.mem_map.mp mem
    exact ⟨container, parent, within, stands, made⟩
  within := by
    intro origin mem
    obtain ⟨d, made, rfl⟩ := List.mem_map.mp mem
    obtain ⟨declares, -⟩ := offset_of_mem_declarations (kind_ne_error_of_standing stands) made
    exact shows.startOf_within (within.standing_subset stands) declares
  ascending := by
    apply List.pairwise_map.mpr
    by_cases isEntry : node.kind = "enum_entry"
    · exact List.pairwise_of_forall fun _ _ => .inl ⟨rfl, isEntry⟩
    · have notError := kind_ne_error_of_standing stands
      rcases declarations_eq_nil_or notError isEntry with none | ⟨d, alone⟩
      · rw [none]
        exact .nil
      · rw [alone]
        exact List.pairwise_singleton _ _

/-- The declaration of a type is followed by what is in its body. -/
theorem exists_of_type (nested : node.Nested) (isType : node.kind ∈ typeKinds)
    (inner : ∀ inside d, body? node = some inside →
      Container.Within text root (.body node inside) d →
      ∃ origins, Traces text root inside.start inside.stop d.children origins) :
    ∃ origins, Traces text root node.start node.stop
      (declarations (sourceOf text root) (container.scope (sourceOf text root)) node) origins := by
  obtain ⟨d, alone⟩ : ∃ d, declarations (sourceOf text root)
      (container.scope (sourceOf text root)) node = [d] := exists_declarations_eq (.inl isType)
  have gives : Container.Gives text root container parent node d :=
    ⟨within, stands, alone ▸ List.mem_singleton_self d⟩
  have mem := within.standing_subset stands
  have ordered := shows.startOf_within mem (by simp [declaringKinds, isType])
  -- the body starts after the first token of the type
  obtain ⟨origins, start, stop, above, below, traced⟩ : ∃ origins start stop,
      (sourceOf text root).startOf node < start ∧ stop ≤ node.stop ∧
        Traces text root start stop d.children origins := by
    cases found : body? node with
    | none =>
      have childless : d.children = [] := by
        have made := gives.made
        rw [declarations_of_mem_typeKinds isType, found] at made
        obtain rfl := List.mem_singleton.mp made
        rfl
      rw [childless]
      exact ⟨[], node.stop, node.stop, ordered.2, Nat.le_refl _, .nil⟩
    | some inside =>
      obtain ⟨origins, traced⟩ :=
        inner inside d found (within.ofType stands isType found gives.made)
      have stops := ((nested_iff node).mp nested).of_mem (mem_children_of_body? found)
      exact ⟨origins, inside.start, inside.stop, shows.startOf_lt_body mem isType found,
        stops.2.2, traced⟩
  rw [alone]
  refine ⟨(node, d) :: origins, ?_, ?_, ?_, ?_⟩
  · rw [List.map_cons, traced.walked, Declaration.preorderAll, Declaration.preorder_eq]
    exact (List.append_nil _).symm
  · exact List.forall_mem_cons.mpr ⟨⟨container, parent, gives⟩, traced.given⟩
  · intro origin mem
    rcases List.mem_cons.mp mem with rfl | later
    · exact ordered
    · obtain ⟨first, last⟩ := traced.within origin later
      omega
  · apply List.pairwise_cons.mpr ⟨fun origin later => .inr ?_, traced.ascending⟩
    exact Nat.lt_of_lt_of_le above (traced.within origin later).1

end

/-- What stands in a container is traced from the containers below. -/
theorem exists_of_within (shows : ShowsStarts text root) {container : Container}
    {parent : Declaration} (within : Container.Within text root container parent)
    {start stop : Nat} (nested : NestedIn start stop container.standing) :
    ∃ origins, Traces text root start stop parent.children origins := by
  rw [within.children_eq]
  apply exists_flatMap nested
  intro node stands
  have isNested := (nested.of_mem stands).2.1
  by_cases isType : node.kind ∈ typeKinds
  · apply exists_of_type shows within stands isNested isType
    intro inside d found below
    have inner := (((nested_iff node).mp isNested).of_mem (mem_children_of_body? found)).2.1
    exact exists_of_within shows below (NestedIn.standing _ ((nested_iff inside).mp inner))
  · exact ⟨_, of_other shows within stands isType⟩
termination_by weightAll container.standing
decreasing_by exact weightAll_body_lt stands found

end Traces

/-- All declarations of an outline with the nodes that they come from. -/
theorem exists_origins {text : String} {root : ParseTree} (shows : ShowsStarts text root) :
    ∃ origins, Traces text root root.start root.stop (outline text root).root.children origins ∧
      origins.map Prod.snd = (outline text root).root.walk.tail := by
  obtain ⟨origins, traced⟩ := Traces.exists_of_within shows .ofFile
    (NestedIn.standing _ ((nested_iff root).mp shows.nested))
  refine ⟨origins, traced, ?_⟩
  rw [traced.walked, Declaration.walk_eq_preorder, Declaration.preorder_eq, List.tail_cons]

end ParseTree

end SwiftStyle
