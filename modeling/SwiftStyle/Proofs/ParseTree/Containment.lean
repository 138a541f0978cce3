import SwiftStyle.ParseTree.Outline
import SwiftStyle.Proofs.Declaration.Nesting
import SwiftStyle.Proofs.ParseTree.Nesting

/-!
The declarations of a parse tree stand inside each other as their nodes do. A declaration starts at
the first token of its node that is no comment, so it may start later than its node; what is carried
through the recursion is that nothing inside starts before that token.
-/

namespace SwiftStyle.ParseTree

mutual

/-- All nodes of a tree, parents before children. -/
def nodes : ParseTree → List ParseTree
  | ⟨kind, field, start, stop, isNamed, isMissing, children⟩ =>
    ⟨kind, field, start, stop, isNamed, isMissing, children⟩ :: nodesIn children

def nodesIn : List ParseTree → List ParseTree
  | [] => []
  | node :: rest => nodes node ++ nodesIn rest

end

theorem nodes_eq (node : ParseTree) : node.nodes = node :: nodesIn node.children := by
  cases node; rfl

/-- The kinds of nodes that declare something. -/
def declaringKinds : List String :=
  typeKinds ++ functionKinds ++ variableKinds ++ ["typealias_declaration", "enum_entry"]

/-- The first token of a node that is no comment. -/
def Source.firstToken? (source : Source) (node : ParseTree) : Option Token :=
  (source.tokensOf node).find? fun t => !t.isComment

/-- What a node has to hold to be read as a declaration. -/
structure Readable (source : Source) (node : ParseTree) : Prop where
  /-- A declaration holds a token that is no comment. -/
  hasToken : node.kind ∈ declaringKinds → ∃ t ∈ source.tokensOf node, t.isComment = false
  /-- The first such token of an enum case starts no later than its first name. -/
  nameLater : node.kind = "enum_entry" →
    ∀ name ∈ node.child? "name", ∀ t ∈ source.firstToken? node, t.offset ≤ name.start

instance (source : Source) (node : ParseTree) : Decidable (Readable source node) :=
  decidable_of_iff
    ((node.kind ∈ declaringKinds → ∃ t ∈ source.tokensOf node, t.isComment = false) ∧
      (node.kind = "enum_entry" →
        ∀ name ∈ node.child? "name", ∀ t ∈ source.firstToken? node, t.offset ≤ name.start))
    ⟨fun h => ⟨h.1, h.2⟩, fun h => ⟨h.hasToken, h.nameLater⟩⟩

namespace Source

/-- What it means for a token to be the first one of a node that is no comment. -/
structure FirstToken (source : Source) (node : ParseTree) (t : Token) : Prop where
  found : source.firstToken? node = some t
  mem : t ∈ source.tokens
  plain : t.isComment = false
  first : node.start ≤ t.offset
  last : t.offset < node.stop
  least : ∀ u ∈ source.tokens, u.isComment = false → node.start ≤ u.offset →
    u.offset < node.stop → t.offset ≤ u.offset

theorem FirstToken.startOf_eq {source : Source} {node : ParseTree} {t : Token}
    (h : source.FirstToken node t) : source.startOf node = t.offset := by
  have found := h.found
  unfold firstToken? at found
  simp [startOf, found]

theorem exists_firstToken {source : Source} {node : ParseTree}
    (sorted : source.tokens.Pairwise fun a b => a.offset ≤ b.offset)
    (held : ∃ t ∈ source.tokensOf node, t.isComment = false) :
    ∃ t, source.FirstToken node t := by
  have isSome : (source.firstToken? node).isSome := by
    obtain ⟨t, ht, plain⟩ := held
    rw [firstToken?, List.find?_isSome]
    exact ⟨t, ht, by simp [plain]⟩
  obtain ⟨t, found⟩ := Option.isSome_iff_exists.mp isSome
  obtain ⟨plain, front, back, split, comments⟩ := List.find?_eq_some_iff_append.mp found
  obtain ⟨mem, first, last⟩ := (Token.mem_between_iff sorted).mp (List.mem_of_find?_eq_some found)
  refine ⟨t, found, mem, by simpa using plain, first, last, ?_⟩
  intro u hu plainu firstu lastu
  have held : u ∈ source.tokensOf node := (Token.mem_between_iff sorted).mpr ⟨hu, firstu, lastu⟩
  have ordered : (source.tokensOf node).Pairwise fun a b => a.offset ≤ b.offset := by
    unfold tokensOf
    rw [Token.between_eq_filter sorted]
    exact sorted.filter _
  rw [split] at held ordered
  rcases List.mem_append.mp held with hu | hu
  · have := comments u hu
    simp [plainu] at this
  · rcases List.mem_cons.mp hu with rfl | hu
    · exact Nat.le_refl _
    · exact (List.pairwise_cons.mp (List.pairwise_append.mp ordered).2.1).1 u hu

/-- Declarations that stand one after the other between two offsets, none of them before the first
token there that is no comment. -/
structure Holds (source : Source) (start stop : Nat) (ds : List Declaration) : Prop where
  nested : Declaration.NestedIn start stop ds
  backed : ∀ d ∈ ds, ∃ t ∈ source.tokens, t.isComment = false ∧ start ≤ t.offset ∧
    t.offset < stop ∧ t.offset ≤ d.offset

theorem Holds.nil {source : Source} {start stop : Nat} (ordered : start ≤ stop) :
    source.Holds start stop [] := ⟨ordered, by simp⟩

theorem Holds.widen {source : Source} {start start' stop stop' : Nat} {ds : List Declaration}
    (h : source.Holds start stop ds) (first : start' ≤ start) (last : stop ≤ stop') :
    source.Holds start' stop' ds where
  nested := (h.nested.lower first).mono last
  backed := by
    intro d hd
    obtain ⟨t, ht, plain, hstart, hstop, hle⟩ := h.backed d hd
    exact ⟨t, ht, plain, by omega, by omega, hle⟩

theorem Holds.append {source : Source} {start middle stop : Nat} {ds es : List Declaration}
    (h : source.Holds start middle ds) (h' : source.Holds middle stop es) :
    source.Holds start stop (ds ++ es) where
  nested := h.nested.append h'.nested
  backed := by
    have first := h.nested.le
    have last := h'.nested.le
    intro d hd
    rcases List.mem_append.mp hd with hd | hd
    · exact (h.widen (Nat.le_refl _) last).backed d hd
    · exact (h'.widen first (Nat.le_refl _)).backed d hd

theorem FirstToken.holds {source : Source} {node : ParseTree} {t : Token}
    (h : source.FirstToken node t) {ds : List Declaration}
    (inside : Declaration.NestedIn t.offset node.stop ds) :
    source.Holds node.start node.stop ds where
  nested := inside.lower h.first
  backed := fun d hd => ⟨t, h.mem, h.plain, h.first, h.last, (inside.spec d hd).2.1⟩

/-- What a node holds starts no earlier than the first token of the node. -/
theorem FirstToken.nestedIn {source : Source} {node : ParseTree} {t : Token}
    (h : source.FirstToken node t) {ds : List Declaration}
    (held : source.Holds node.start node.stop ds) :
    Declaration.NestedIn t.offset node.stop ds := by
  refine held.nested.raise (Nat.le_of_lt h.last) fun d hd => ?_
  obtain ⟨u, hu, plain, first, last, le⟩ := held.backed d hd
  exact Nat.le_trans (h.least u hu plain first last) le

/-- A declaration that covers a node from its first token on, with what the node holds inside. -/
theorem FirstToken.holds_singleton {source : Source} {node : ParseTree} {t : Token}
    (h : source.FirstToken node t) {d : Declaration} (hoffset : d.offset = source.startOf node)
    (hlength : d.length = node.stop - source.startOf node)
    (inside : source.Holds node.start node.stop d.children) :
    source.Holds node.start node.stop [d] := by
  have last := h.last
  have stop : d.stop = node.stop := by
    unfold Declaration.stop
    rw [hoffset, hlength, h.startOf_eq]
    omega
  rw [h.startOf_eq] at hoffset
  refine h.holds ⟨Nat.le_of_eq hoffset.symm, ?_, Nat.le_of_eq stop⟩
  rw [Declaration.nested_iff, hoffset, stop]
  exact h.nestedIn inside

end Source

/-! The elements of an enum case. -/

/-- Whether elements, the latest first, stand one after the other between two offsets. -/
def ElementsIn (start stop : Nat) : List CaseElement → Prop
  | [] => start ≤ stop
  | e :: earlier => e.start ≤ e.stop ∧ e.stop ≤ stop ∧ ElementsIn start e.start earlier

theorem ElementsIn.mono {start stop stop' : Nat} {elements : List CaseElement}
    (h : ElementsIn start stop elements) (later : stop ≤ stop') :
    ElementsIn start stop' elements := by
  cases elements with
  | nil => exact Nat.le_trans h later
  | cons e earlier => exact ⟨h.1, Nat.le_trans h.2.1 later, h.2.2⟩

/-- A child of an enum case adds an element after the others, or extends the last one. -/
theorem ElementsIn.addToCase {source : Source} {start stop : Nat} {elements : List CaseElement}
    {child : ParseTree} (h : ElementsIn start stop elements) (follows : stop ≤ child.start)
    (ordered : child.start ≤ child.stop) :
    ElementsIn start child.stop (addToCase source elements child) := by
  unfold ParseTree.addToCase
  split
  · exact ⟨ordered, Nat.le_refl _, h.mono follows⟩
  · cases elements with
    | nil => exact h.mono (Nat.le_trans follows ordered)
    | cons e earlier =>
      have extended : e.start ≤ child.stop := by
        have := h.1
        have := h.2.1
        omega
      simp only
      split
      · exact ⟨extended, Nat.le_refl _, h.2.2⟩
      · split
        · exact ⟨extended, Nat.le_refl _, h.2.2⟩
        · exact h.mono (Nat.le_trans follows ordered)

theorem ElementsIn.foldl {source : Source} {start middle stop : Nat}
    {elements : List CaseElement} {children : List ParseTree}
    (h : ElementsIn start middle elements) (nested : NestedIn middle stop children) :
    ElementsIn start stop (children.foldl (ParseTree.addToCase source) elements) := by
  induction children generalizing middle elements with
  | nil => exact h.mono nested
  | cons child children ih =>
    exact ih (h.addToCase nested.1 (Nested.le child nested.2.1)) nested.2.2

theorem ElementsIn.nestedIn {start middle stop : Nat} {elements : List CaseElement}
    (h : ElementsIn start middle elements) (access : Access) (documentation : Option String)
    {rest : List Declaration} (hrest : Declaration.NestedIn middle stop rest) :
    Declaration.NestedIn start stop
      (elements.reverse.map (fun e => caseElement access documentation e.start e) ++ rest) := by
  induction elements generalizing middle rest with
  | nil => exact hrest.lower h
  | cons e earlier ih =>
    have hstop : (caseElement access documentation e.start e).stop = e.stop := by
      have := h.1
      simp only [caseElement, Source.declare, Declaration.stop]
      omega
    have mine : Declaration.NestedIn e.start stop
        (caseElement access documentation e.start e :: rest) := by
      refine ⟨Nat.le_refl _, Nat.le_add_right _ _, ?_⟩
      rw [hstop]
      exact hrest.lower h.2.1
    simpa using ih h.2.2 mine

theorem addToCase_cons (source : Source) (child : ParseTree) (e : CaseElement)
    (earlier : List CaseElement) :
    ∃ e' earlier', addToCase source (e :: earlier) child = e' :: earlier' ∧
      (e' :: earlier').getLast?.map CaseElement.start
        = (e :: earlier).getLast?.map CaseElement.start := by
  unfold addToCase
  split
  · exact ⟨_, _, rfl, by simp⟩
  · simp only
    split
    · exact ⟨_, _, rfl, by cases earlier <;> simp⟩
    · split
      · exact ⟨_, _, rfl, by cases earlier <;> simp⟩
      · exact ⟨e, earlier, rfl, rfl⟩

theorem getLast?_foldl_addToCase (source : Source) (children : List ParseTree) (e : CaseElement)
    (earlier : List CaseElement) :
    (children.foldl (addToCase source) (e :: earlier)).getLast?.map CaseElement.start
      = (e :: earlier).getLast?.map CaseElement.start := by
  induction children generalizing e earlier with
  | nil => rfl
  | cons child children ih =>
    obtain ⟨e', earlier', step, same⟩ := addToCase_cons source child e earlier
    rw [List.foldl_cons, step, ih, same]

theorem head?_caseElements (source : Source) (entry : ParseTree) :
    (caseElements source entry).head?.map CaseElement.start
      = (entry.child? "name").map ParseTree.start := by
  unfold caseElements child?
  rw [List.head?_reverse]
  induction entry.children with
  | nil => rfl
  | cons child children ih =>
    by_cases named : child.field = some "name"
    · have opened : addToCase source [] child =
          [⟨child.start, child.stop, Labels.unquote (source.textOf child)⟩] := by
        simp [addToCase, named]
      rw [List.foldl_cons, opened, getLast?_foldl_addToCase]
      simp [named]
    · have skipped : addToCase source [] child = [] := by simp [addToCase, named]
      rw [List.foldl_cons, skipped, ih, List.find?_cons_of_neg (by simp [named])]

/-- The elements of an enum case are held by the case. -/
theorem enumCase_holds {source : Source} {scope : Scope} {entry : ParseTree} {t : Token}
    (first : source.FirstToken entry t) (nested : entry.Nested)
    (nameLater : ∀ name, entry.child? "name" = some name → t.offset ≤ name.start) :
    source.Holds entry.start entry.stop (enumCase source scope entry) := by
  apply first.holds
  have laid : ElementsIn entry.start entry.stop (caseElements source entry).reverse := by
    have empty : ElementsIn entry.start entry.start [] := Nat.le_refl _
    unfold caseElements
    rw [List.reverse_reverse]
    exact empty.foldl ((nested_iff entry).mp nested)
  have head := head?_caseElements source entry
  unfold enumCase
  cases helements : caseElements source entry with
  | nil => exact Nat.le_of_lt first.last
  | cons e others =>
    have done : Declaration.NestedIn entry.stop entry.stop [] := Nat.le_refl _
    have placed := laid.nestedIn (accessWith (source.modifiersOf entry) scope.caseAccess)
      (source.documentationBefore (source.startOf entry)) done
    rw [helements] at head placed
    obtain ⟨name, hname, hstart⟩ := Option.map_eq_some_iff.mp head.symm
    have later : t.offset ≤ e.start := hstart ▸ nameLater name hname
    simp only [List.reverse_reverse, List.map_cons, List.append_nil] at placed
    -- the first element reaches back to the first token of the case
    have reaches : (caseElement (accessWith (source.modifiersOf entry) scope.caseAccess)
        (source.documentationBefore (source.startOf entry)) (source.startOf entry) e).stop
          ≤ (caseElement (accessWith (source.modifiersOf entry) scope.caseAccess)
            (source.documentationBefore (source.startOf entry)) e.start e).stop := by
      simp only [caseElement, Source.declare, Declaration.stop, first.startOf_eq]
      omega
    refine ⟨Nat.le_of_eq first.startOf_eq.symm, Nat.le_add_right _ _, placed.2.2.lower reaches⟩

mutual

/-- The declarations that a node stands for are held by it. -/
theorem declarations_holds {source : Source}
    (sorted : source.tokens.Pairwise fun a b => a.offset ≤ b.offset) (scope : Scope) :
    (node : ParseTree) → node.Nested → (∀ n ∈ node.nodes, Readable source n) →
      source.Holds node.start node.stop (declarations source scope node)
  | ⟨kind, field, start, stop, isNamed, isMissing, children⟩, nested, readable => by
    have mine := readable _ (by rw [nodes_eq]; exact List.mem_cons_self)
    have inside : ∀ n ∈ nodesIn children, Readable source n := fun n hn =>
      readable n (by rw [nodes_eq]; exact List.mem_cons_of_mem _ hn)
    have none : source.Holds start stop [] := .nil (Nested.le _ nested)
    -- a node of a declaring kind has a first token
    have token : kind ∈ declaringKinds → ∃ t,
        source.FirstToken ⟨kind, field, start, stop, isNamed, isMissing, children⟩ t :=
      fun declares => Source.exists_firstToken sorted (mine.hasToken declares)
    rw [declarations]
    split
    · next isType =>
      obtain ⟨t, first⟩ := token (by simp_all [declaringKinds])
      refine first.holds_singleton rfl rfl ?_
      change source.Holds start stop (match bodyMembers? source _ hasBodyRole children with
        | some members => members
        | Option.none => (bodyMembers? source _ hasBodyKind children).getD [])
      split
      · next members found =>
        exact bodyMembers?_holds sorted _ _ children nested inside members found
      · cases found : bodyMembers? source _ hasBodyKind children with
        | none => exact none
        | some members => exact bodyMembers?_holds sorted _ _ children nested inside members found
    · split
      · next isFunction =>
        obtain ⟨t, first⟩ := token (by simp_all [declaringKinds])
        exact first.holds_singleton rfl rfl none
      · split
        · next isVariable =>
          obtain ⟨t, first⟩ := token (by simp_all [declaringKinds])
          exact first.holds_singleton rfl rfl none
        · split
          · next isAlias =>
            obtain ⟨t, first⟩ := token (by simp_all [declaringKinds])
            exact first.holds_singleton rfl rfl none
          · split
            · next isEntry =>
              obtain ⟨t, first⟩ := token (by simp_all [declaringKinds])
              refine enumCase_holds first nested fun name hname => ?_
              exact mine.nameLater isEntry name hname t first.found
            · split
              · exact declarationsIn_holds sorted scope children nested inside
              · exact none

/-- The declarations that nodes stand for are held between the offsets around the nodes. -/
theorem declarationsIn_holds {source : Source}
    (sorted : source.tokens.Pairwise fun a b => a.offset ≤ b.offset) (scope : Scope)
    {start stop : Nat} :
    (nodes : List ParseTree) → NestedIn start stop nodes →
      (∀ n ∈ nodesIn nodes, Readable source n) →
      source.Holds start stop (declarationsIn source scope nodes)
  | [], nested, _ => by
    rw [declarationsIn]
    exact .nil nested
  | node :: nodes, nested, readable => by
    have mine := declarations_holds sorted scope node nested.2.1 fun n hn =>
      readable n (by rw [nodesIn]; exact List.mem_append_left _ hn)
    have others := declarationsIn_holds sorted scope nodes nested.2.2 fun n hn =>
      readable n (by rw [nodesIn]; exact List.mem_append_right _ hn)
    rw [declarationsIn]
    exact (mine.widen nested.1 (Nat.le_refl _)).append others

/-- The members in the first body among nodes are held between the offsets around the nodes. -/
theorem bodyMembers?_holds {source : Source}
    (sorted : source.tokens.Pairwise fun a b => a.offset ≤ b.offset) (scope : Scope)
    (isBody : ParseTree → Bool) {start stop : Nat} :
    (nodes : List ParseTree) → NestedIn start stop nodes →
      (∀ n ∈ nodesIn nodes, Readable source n) →
      ∀ members, bodyMembers? source scope isBody nodes = some members →
        source.Holds start stop members
  | [], _, _, members, h => by simp [bodyMembers?] at h
  | ⟨kind, field, first, last, isNamed, isMissing, children⟩ :: nodes, nested, readable,
      members, h => by
    rw [bodyMembers?] at h
    split at h
    · cases h
      have held := declarationsIn_holds sorted scope children nested.2.1 fun n hn =>
        readable n (by rw [nodesIn, nodes_eq]; simp [hn])
      exact held.widen nested.1 (NestedIn.le nodes nested.2.2)
    · have held := bodyMembers?_holds sorted scope isBody nodes nested.2.2 (fun n hn =>
        readable n (by rw [nodesIn]; exact List.mem_append_right _ hn)) members h
      exact held.widen (Nat.le_trans nested.1 (Nested.le _ nested.2.1)) (Nat.le_refl _)

end

/-- The text and the tokens that declarations of a tree are read from. -/
def sourceOf (text : String) (root : ParseTree) : Source := ⟨text.toList, tokens text.toList root⟩

/-- In the outline of a nested tree every declaration covers what is inside it, the root the whole
text, and the declarations start one after the other in the order of the walk. -/
theorem outline_nested (text : String) (root : ParseTree) (nested : root.Nested)
    (onText : root.stop ≤ text.utf8ByteSize)
    (readable : ∀ node ∈ root.nodes, Readable (sourceOf text root) node) :
    (outline text root).root.offset = 0 ∧
      (outline text root).root.stop = text.utf8ByteSize ∧
      (∀ d ∈ (outline text root).root.walk, ∀ child ∈ d.children,
        d.offset ≤ child.offset ∧ child.stop ≤ d.stop) ∧
      ((outline text root).root.walk.map Declaration.offset).Pairwise (· ≤ ·) := by
  have held : (sourceOf text root).Holds root.start root.stop
      (declarationsIn (sourceOf text root) .file root.children) :=
    declarationsIn_holds (tokens_inOrder nested).sorted .file root.children
      ((nested_iff root).mp nested) fun n hn =>
        readable n (by rw [nodes_eq]; exact List.mem_cons_of_mem _ hn)
  have stop : (outline text root).root.stop = text.utf8ByteSize := Nat.zero_add _
  have whole : (outline text root).root.Nested := by
    rw [Declaration.nested_iff, stop]
    exact (held.widen (Nat.zero_le _) onText).nested
  obtain ⟨covers, sorted, _⟩ := Declaration.Nested.preorder_spec _ whole
  rw [Declaration.walk_eq_preorder]
  exact ⟨rfl, stop, covers, List.pairwise_map.mpr sorted⟩

/-- An enum whose case stands in an error node and has two elements. -/
def recoveredEnum : ParseTree :=
  ⟨"source_file", none, 0, 23, true, false, [
    ⟨"class_declaration", none, 0, 23, true, false, [
      ⟨"enum", some "declaration_kind", 0, 4, false, false, []⟩,
      ⟨"type_identifier", some "name", 5, 6, true, false, []⟩,
      ⟨"enum_class_body", some "body", 6, 23, true, false, [
        ⟨"\x7b", none, 6, 7, false, false, []⟩,
        ⟨"ERROR", none, 7, 22, true, false, [
          ⟨"enum_entry", none, 7, 22, true, false, [
            ⟨"case", none, 7, 11, false, false, []⟩,
            ⟨"simple_identifier", some "name", 12, 13, true, false, []⟩,
            ⟨",", none, 13, 14, false, false, []⟩,
            ⟨"simple_identifier", some "name", 14, 15, true, false, []⟩,
            ⟨"enum_type_parameters", some "data_contents", 15, 22, true, false, []⟩]⟩]⟩,
        ⟨"\x7d", none, 22, 23, false, false, []⟩]⟩]⟩]⟩

theorem outline_nested_recoveredEnum :
    (outline "enum E\x7bcase a,b(x:Int)\x7d" recoveredEnum).root.walk.map
        (fun d => (d.offset, d.stop)) = [(0, 23), (0, 23), (7, 13), (14, 22)] ∧
      ((outline "enum E\x7bcase a,b(x:Int)\x7d" recoveredEnum).root.walk.map
        Declaration.offset).Pairwise (· ≤ ·) :=
  ⟨by decide +kernel, (outline_nested "enum E\x7bcase a,b(x:Int)\x7d" recoveredEnum
    (by simp [recoveredEnum, Nested, NestedIn]) (by decide +kernel) (by decide +kernel)).2.2.2⟩

end SwiftStyle.ParseTree
