import Mathlib.Logic.ExistsUnique
import SwiftStyle.Proofs.ParseTree.Containment
import SwiftStyle.Proofs.ParseTree.Cursor
import SwiftStyle.Proofs.ParseTree.Members

/-!
Which nodes the tokens of a tree come from. They are the nodes that make a token as a whole and
stand in no other node that does, in the order of the text, without those that cover nothing. Every
leaf makes a token as a whole, so each leaf that covers something is in exactly one of them.
-/

namespace SwiftStyle.ParseTree

mutual

/-- All nodes of a tree, parents before children, each with its ancestors, the nearest first. -/
def lineages (above : List ParseTree) : ParseTree → List (List ParseTree × ParseTree)
  | ⟨kind, field, start, stop, isNamed, isMissing, children⟩ =>
    let node : ParseTree := ⟨kind, field, start, stop, isNamed, isMissing, children⟩
    (above, node) :: lineagesIn (node :: above) children

def lineagesIn (above : List ParseTree) : List ParseTree → List (List ParseTree × ParseTree)
  | [] => []
  | node :: rest => lineages above node ++ lineagesIn above rest

end

theorem lineages_eq (above : List ParseTree) (node : ParseTree) :
    lineages above node = (above, node) :: lineagesIn (node :: above) node.children := by
  cases node; rfl

mutual

theorem map_snd_lineages (above : List ParseTree) : (node : ParseTree) →
    (lineages above node).map Prod.snd = nodes node
  | ⟨kind, field, start, stop, isNamed, isMissing, children⟩ => by
    rw [lineages_eq, List.map_cons, map_snd_lineagesIn _ children, nodes]

theorem map_snd_lineagesIn (above : List ParseTree) : (nodes : List ParseTree) →
    (lineagesIn above nodes).map Prod.snd = nodesIn nodes
  | [] => rfl
  | node :: rest => by
    rw [lineagesIn, List.map_append, map_snd_lineages above node, map_snd_lineagesIn above rest,
      nodesIn]

end

mutual

theorem subset_of_mem_lineages {above : List ParseTree}
    {lineage : List ParseTree × ParseTree} :
    (node : ParseTree) → lineage ∈ lineages above node → above ⊆ lineage.1
  | ⟨kind, field, start, stop, isNamed, isMissing, children⟩, h => by
    rw [lineages_eq] at h
    rcases List.mem_cons.mp h with rfl | h
    · exact List.Subset.refl _
    · exact fun ancestor mem => subset_of_mem_lineagesIn children h (List.mem_cons_of_mem _ mem)

/-- Every node below others has them among its ancestors. -/
theorem subset_of_mem_lineagesIn {above : List ParseTree}
    {lineage : List ParseTree × ParseTree} :
    (nodes : List ParseTree) → lineage ∈ lineagesIn above nodes → above ⊆ lineage.1
  | [], h => absurd h List.not_mem_nil
  | node :: rest, h => by
    rcases List.mem_append.mp h with h | h
    · exact subset_of_mem_lineages node h
    · exact subset_of_mem_lineagesIn rest h

end

/-- Whether a node makes a token as a whole and none of its ancestors does. -/
def isOutermost (source : List Char) (lineage : List ParseTree × ParseTree) : Bool :=
  (tokenKind? source lineage.2).isSome && lineage.1.all fun node => (tokenKind? source node).isNone

/-- The token over the bytes of a node, if it makes one as a whole and there are bytes. -/
def covering? (source : List Char) (node : ParseTree) : Option Token :=
  (tokenKind? source node).bind fun kind =>
    if node.start < node.stop then some ⟨kind, node.start, node.stop - node.start⟩ else none

/-- Whether the parser put in only nodes that cover nothing. -/
def MissingEmpty (node : ParseTree) : Prop := node.isMissing = true → node.start = node.stop

instance (node : ParseTree) : Decidable (MissingEmpty node) :=
  inferInstanceAs (Decidable (_ → _))

theorem token?_eq {kind : TokenKind} {node : ParseTree} (missing : MissingEmpty node) :
    token? kind node =
      if node.start < node.stop then some ⟨kind, node.start, node.stop - node.start⟩ else none := by
  unfold token?
  by_cases covers : node.start < node.stop
  · have present : node.isMissing = false :=
      Bool.eq_false_iff.mpr fun put => Nat.ne_of_lt covers (missing put)
    simp [covers, present]
  · simp [covers]

theorem filter_isOutermost_eq_nil {source : List Char} {above nodes : List ParseTree}
    {whole : ParseTree} (makes : (tokenKind? source whole).isSome = true) (mem : whole ∈ above) :
    (lineagesIn above nodes).filter (isOutermost source) = [] := by
  refine List.filter_eq_nil_iff.mpr fun lineage hlineage outermost => ?_
  have free := List.all_eq_true.mp (Bool.and_eq_true_iff.mp outermost).2 whole
    (subset_of_mem_lineagesIn nodes hlineage mem)
  rw [Option.isNone_iff_eq_none] at free
  simp [free] at makes

theorem tokensOfStack_append (source : List Char) (xs ys : List ParseTree) :
    tokensOfStack source (xs ++ ys) = tokensOfStack source xs ++ tokensOfStack source ys := by
  fun_induction tokensOfStack source xs with
  | case1 => rfl
  | case2 node stack kind whole ih => simp [tokensOfStack, whole, ih]
  | case3 node stack parts ih => simp [tokensOfStack, parts, ← ih]

mutual

theorem tokensOfStack_singleton {source : List Char} {above : List ParseTree}
    (free : ∀ node ∈ above, tokenKind? source node = none) : (node : ParseTree) →
    (∀ n ∈ nodes node, MissingEmpty n) →
    tokensOfStack source [node] =
      ((lineages above node).filter (isOutermost source)).filterMap (covering? source ·.2)
  | ⟨kind, field, start, stop, isNamed, isMissing, children⟩, missing => by
    rw [nodes] at missing
    obtain ⟨mine, inside⟩ := List.forall_mem_cons.mp missing
    rw [lineages_eq, tokensOfStack]
    cases whole : tokenKind? source ⟨kind, field, start, stop, isNamed, isMissing, children⟩ with
    | some tokenKind =>
      have outermost : isOutermost source
          (above, ⟨kind, field, start, stop, isNamed, isMissing, children⟩) = true := by
        simpa [isOutermost, whole] using free
      rw [List.filter_cons_of_pos outermost,
        filter_isOutermost_eq_nil (by rw [whole, Option.isSome_some]) List.mem_cons_self]
      simp only [tokensOfStack, List.append_nil, token?_eq mine, List.filterMap_cons, covering?,
        whole, Option.bind_some]
      split <;> rfl
    | none =>
      have inner : ¬isOutermost source
          (above, ⟨kind, field, start, stop, isNamed, isMissing, children⟩) = true := by
        simp [isOutermost, whole]
      rw [List.filter_cons_of_neg inner, List.append_nil]
      exact tokensOfStack_eq (List.forall_mem_cons.mpr ⟨whole, free⟩) children inside

/-- Below nodes that make no tokens, the tokens are those of the outermost nodes that make one. -/
theorem tokensOfStack_eq {source : List Char} {above : List ParseTree}
    (free : ∀ node ∈ above, tokenKind? source node = none) : (stack : List ParseTree) →
    (∀ n ∈ nodesIn stack, MissingEmpty n) →
    tokensOfStack source stack =
      ((lineagesIn above stack).filter (isOutermost source)).filterMap (covering? source ·.2)
  | [], _ => by
    rw [tokensOfStack]
    rfl
  | node :: rest, missing => by
    rw [nodesIn] at missing
    obtain ⟨mine, others⟩ := List.forall_mem_append.mp missing
    rw [← List.singleton_append, tokensOfStack_append, tokensOfStack_singleton free node mine,
      tokensOfStack_eq free rest others, List.singleton_append, lineagesIn, List.filter_append,
      List.filterMap_append]

end

/-- Every leaf makes a token as a whole. -/
theorem tokenKind?_of_leaf {source : List Char} {leaf : ParseTree} (empty : leaf.children = []) :
    (tokenKind? source leaf).isSome = true := by
  unfold tokenKind?
  simp only [empty, List.isEmpty_nil, Bool.not_true, Bool.false_eq_true, if_false]
  repeat' split
  all_goals rfl

mutual

theorem Nested.within {n : ParseTree} : (node : ParseTree) → node.Nested → n ∈ nodes node →
    node.start ≤ n.start ∧ n.stop ≤ node.stop
  | ⟨kind, field, start, stop, isNamed, isMissing, children⟩, h, mem => by
    rw [nodes] at mem
    rcases List.mem_cons.mp mem with rfl | mem
    · exact ⟨Nat.le_refl _, Nat.le_refl _⟩
    · exact NestedIn.within children h mem

theorem NestedIn.within {n : ParseTree} {start stop : Nat} : (nodes : List ParseTree) →
    NestedIn start stop nodes → n ∈ nodesIn nodes → start ≤ n.start ∧ n.stop ≤ stop
  | [], _, mem => absurd mem List.not_mem_nil
  | node :: rest, h, mem => by
    have ordered := Nested.le node h.2.1
    have first := h.1
    have last := NestedIn.le rest h.2.2
    rcases List.mem_append.mp mem with mem | mem
    · have := Nested.within node h.2.1 mem
      omega
    · have := NestedIn.within rest h.2.2 mem
      omega

end

theorem nodesIn_append (xs ys : List ParseTree) :
    nodesIn (xs ++ ys) = nodesIn xs ++ nodesIn ys := by
  induction xs with
  | nil => rfl
  | cons x xs ih => rw [List.cons_append, nodesIn, nodesIn, ih, List.append_assoc]

/-- A leaf that covers something is in some token. -/
theorem exists_token_of_leaf {source : List Char} {start stop : Nat} {stack : List ParseTree}
    (nested : NestedIn start stop stack) (missing : ∀ n ∈ nodesIn stack, MissingEmpty n)
    {leaf : ParseTree} (mem : leaf ∈ nodesIn stack) (empty : leaf.children = [])
    (covers : leaf.start < leaf.stop) :
    ∃ t ∈ tokensOfStack source stack, t.offset ≤ leaf.start ∧ leaf.stop ≤ t.stop := by
  fun_induction tokensOfStack source stack generalizing start with
  | case1 => exact absurd mem List.not_mem_nil
  | case2 node stack kind whole ih =>
    rw [nodesIn] at missing mem
    obtain ⟨mine, others⟩ := List.forall_mem_append.mp missing
    rcases List.mem_append.mp mem with mem | mem
    · obtain ⟨first, last⟩ := Nested.within node nested.2.1 mem
      have nonempty : node.start < node.stop := by omega
      refine ⟨⟨kind, node.start, node.stop - node.start⟩, ?_, first, ?_⟩
      · rw [token?_eq (mine node (by rw [nodes_eq]; exact List.mem_cons_self)), if_pos nonempty]
        exact List.mem_append_left _ List.mem_cons_self
      · simp only [Token.stop]
        omega
    · obtain ⟨t, ht, inside⟩ := ih nested.2.2 others mem
      exact ⟨t, List.mem_append_right _ ht, inside⟩
  | case3 node stack parts ih =>
    rw [nodesIn, nodes_eq, List.cons_append, ← nodesIn_append] at missing mem
    rcases List.mem_cons.mp mem with rfl | mem
    · have makes : (tokenKind? source leaf).isSome = true := tokenKind?_of_leaf empty
      simp [parts] at makes
    · exact ih nested.expand (fun n hn => missing n (List.mem_cons_of_mem _ hn)) mem

theorem mem_nodes_of_mem_lineages {root : ParseTree} {lineage : List ParseTree × ParseTree}
    (h : lineage ∈ lineages [] root) : lineage.2 ∈ root.nodes := by
  rw [← map_snd_lineages []]
  exact List.mem_map_of_mem h

theorem covering?_eq_some {source : List Char} {node : ParseTree} {t : Token}
    (h : covering? source node = some t) :
    tokenKind? source node = some t.kind ∧ t.offset = node.start ∧ t.stop = node.stop := by
  obtain ⟨kind, whole, h⟩ := Option.bind_eq_some_iff.mp h
  split at h
  · next nonempty =>
    cases h
    refine ⟨whole, rfl, ?_⟩
    simp only [Token.stop]
    omega
  · cases h

/-- The cursor finds exactly the outermost nodes of a tree that make tokens, in the order of the
text and without those that cover nothing. The tokens follow each other, each covers the bytes of a
node, and every leaf that covers something is in exactly one of them. -/
theorem collect_outermost (source : List Char) (root : ParseTree) (nested : root.Nested)
    (missing : ∀ node ∈ root.nodes, MissingEmpty node) :
    Cursor.collect source [] (.top root) = tokens source root ∧
      tokens source root =
        ((lineages [] root).filter (isOutermost source)).filterMap (covering? source ·.2) ∧
      (tokens source root).Pairwise (fun a b => a.offset < b.offset ∧ a.stop ≤ b.offset) ∧
      (∀ t ∈ tokens source root, 0 < t.length ∧ ∃ node ∈ root.nodes,
        tokenKind? source node = some t.kind ∧ t.offset = node.start ∧ t.stop = node.stop) ∧
      ∀ leaf ∈ root.nodes, leaf.children = [] → leaf.start < leaf.stop →
        ∃! t, t ∈ tokens source root ∧ t.offset ≤ leaf.start ∧ leaf.stop ≤ t.stop := by
  have ordered : Token.InOrder (tokens source root) := tokens_inOrder nested
  have outermost : tokens source root =
      ((lineages [] root).filter (isOutermost source)).filterMap (covering? source ·.2) :=
    tokensOfStack_singleton (by simp) root missing
  refine ⟨Cursor.collect_top source root, outermost, ?_, ?_, ?_⟩
  · refine ordered.disjoint.imp_of_mem fun {a b} ha _ follow => ⟨?_, follow⟩
    have := ordered.nonempty a ha
    unfold Token.stop at follow
    omega
  · intro t ht
    refine ⟨ordered.nonempty t ht, ?_⟩
    rw [outermost] at ht
    obtain ⟨lineage, hlineage, found⟩ := List.mem_filterMap.mp ht
    exact ⟨lineage.2, mem_nodes_of_mem_lineages (List.mem_filter.mp hlineage).1,
      covering?_eq_some found⟩
  · intro leaf mem empty covers
    have alone : NestedIn root.start root.stop [root] := ⟨Nat.le_refl _, nested, Nat.le_refl _⟩
    obtain ⟨t, ht, first, last⟩ : ∃ t ∈ tokens source root,
        t.offset ≤ leaf.start ∧ leaf.stop ≤ t.stop :=
      exists_token_of_leaf alone (by simpa [nodesIn] using missing)
        (by simpa [nodesIn] using mem) empty covers
    refine ⟨t, ⟨ht, first, last⟩, ?_⟩
    rintro u ⟨hu, first', last'⟩
    -- two tokens around one byte are the same, since tokens do not overlap
    rcases eq_or_rel_of_pairwise ordered.disjoint hu ht with same | before | before
    · exact same
    · omega
    · omega

/-- An attribute, a name, a text literal, and a bracket that the parser put in. -/
def literalAfterAttribute : ParseTree :=
  inner "source_file" 0 8 [
    inner "attribute" 0 2 [leaf "@" 0 1, inner "type_identifier" 1 2 []],
    inner "simple_identifier" 3 4 [],
    inner "line_string_literal" 5 8 [leaf "\"" 5 6, inner "line_str_text" 6 7 [], leaf "\"" 7 8],
    ⟨"\x7d", none, 8, 8, false, true, []⟩]

theorem collect_outermost_literalAfterAttribute :
    Cursor.collect "@x f \"a\"".toList [] (.top literalAfterAttribute) =
        [⟨.attr, 0, 2⟩, ⟨.identifier, 3, 1⟩, ⟨.string, 5, 3⟩] ∧
      ∃! t, t ∈ tokens "@x f \"a\"".toList literalAfterAttribute ∧ t.offset ≤ 6 ∧ 7 ≤ t.stop := by
  obtain ⟨visits, -, -, -, covered⟩ := collect_outermost "@x f \"a\"".toList
    literalAfterAttribute (by simp [literalAfterAttribute, inner, leaf, Nested, NestedIn])
    (by decide +kernel)
  refine ⟨visits.trans (by decide +kernel), covered (inner "line_str_text" 6 7 []) ?_ rfl ?_⟩
  · simp [literalAfterAttribute, nodes, nodesIn, inner, leaf]
  · decide

end SwiftStyle.ParseTree
