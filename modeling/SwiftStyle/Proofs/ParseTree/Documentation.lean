import Mathlib.Data.List.Basic
import Mathlib.Data.List.DropRight
import SwiftStyle.Proofs.ParseTree.Origins

/-!
Which comments document a declaration: those directly before the first token of its node that is no
comment. The scan for them goes back through all tokens, whatever nodes these are in, but never past
a token that is no comment. So two declarations whose first tokens are not the same share none.
-/

namespace SwiftStyle.ParseTree

namespace Source

variable {source : Source} {scope : Scope} {node other : ParseTree} {d : Declaration}
  {first second : Token} {docs docs' : List Token}

/-- What comments say, one on each line. -/
def said (source : Source) (docs : List Token) : String :=
  String.intercalate "\n" (docs.map fun doc => String.ofList (doc.text source.text))

/-- The doc comments that the tokens before an offset end with. -/
def docsBefore (source : Source) (offset : Nat) : List Token :=
  (source.tokens.takeWhile (·.offset < offset)).rtakeWhile (·.kind == .docComment)

theorem documentationBefore_eq (source : Source) (offset : Nat) :
    source.documentationBefore offset =
      if source.docsBefore offset = [] then none
      else some (source.said (source.docsBefore offset)) := by
  unfold documentationBefore docsBefore List.rtakeWhile said
  dsimp only
  generalize (source.tokens.takeWhile _).reverse.takeWhile _ = docs
  cases docs <;> simp

/-- Doc comments that stand directly before the first token of a node that is no comment, all that
do so. -/
structure Documents (source : Source) (docs : List Token) (node : ParseTree) (first : Token) :
    Prop where
  isFirst : source.FirstToken node first
  areDocs : ∀ doc ∈ docs, doc.kind = .docComment
  parts : ∃ earlier later, source.tokens = earlier ++ docs ++ first :: later ∧
    ∀ last ∈ earlier.getLast?, last.kind ≠ .docComment

theorem takeWhile_before {front back : List Token}
    (inOrder : Token.InOrder (front ++ first :: back)) :
    (front ++ first :: back).takeWhile (·.offset < first.offset) = front := by
  obtain ⟨-, -, across⟩ := List.pairwise_append.mp inOrder.ascending
  rw [List.takeWhile_append_of_pos]
  · rw [List.takeWhile_cons_of_neg (by simp), List.append_nil]
  · intro t mem
    exact decide_eq_true (across t mem first List.mem_cons_self)

theorem documents_docsBefore (inOrder : Token.InOrder source.tokens)
    (isFirst : source.FirstToken node first) :
    source.Documents (source.docsBefore first.offset) node first where
  isFirst := isFirst
  areDocs := by
    intro doc mem
    have kind := List.mem_rtakeWhile_imp mem
    exact beq_iff_eq.mp kind
  parts := by
    obtain ⟨front, back, cut⟩ := List.append_of_mem isFirst.mem
    rw [cut] at inOrder
    refine ⟨front.rdropWhile (·.kind == .docComment), back, ?_, ?_⟩
    · rw [docsBefore, cut, takeWhile_before inOrder, List.rdropWhile_append_rtakeWhile]
    · intro last isLast
      obtain ⟨filled, rfl⟩ := List.mem_getLast?_eq_getLast isLast
      simpa using List.rdropWhile_last_not (fun t : Token => t.kind == .docComment) front filled

namespace Documents

theorem offset_lt (inOrder : Token.InOrder source.tokens)
    (documents : source.Documents docs node first) :
    ∀ doc ∈ docs, doc.offset < first.offset := by
  obtain ⟨earlier, later, cut, -⟩ := documents.parts
  have ascending := inOrder.ascending
  rw [cut] at ascending
  intro doc mem
  exact (List.pairwise_append.mp ascending).2.2 doc (List.mem_append_right _ mem) first
    List.mem_cons_self

/-- No token that is no comment stands between the comments and the token they document. -/
theorem lt_offset (inOrder : Token.InOrder source.tokens)
    (documents : source.Documents docs node first) {t : Token} (mem : t ∈ source.tokens)
    (plain : t.isComment = false) (before : t.offset < first.offset) :
    ∀ doc ∈ docs, t.offset < doc.offset := by
  obtain ⟨earlier, later, cut, -⟩ := documents.parts
  have ascending := inOrder.ascending
  rw [cut] at ascending mem
  obtain ⟨front, back, across⟩ := List.pairwise_append.mp ascending
  rcases List.mem_append.mp mem with mem | mem
  · rcases List.mem_append.mp mem with early | isDoc
    · exact (List.pairwise_append.mp front).2.2 t early
    · have kind := documents.areDocs t isDoc
      simp [Token.isComment, kind] at plain
  · rcases List.mem_cons.mp mem with rfl | late
    · exact absurd before (Nat.lt_irrefl _)
    · have := (List.pairwise_cons.mp back).1 t late
      omega

theorem disjoint (inOrder : Token.InOrder source.tokens)
    (documents : source.Documents docs node first)
    (documents' : source.Documents docs' other second) (ordered : first.offset < second.offset) :
    docs.Disjoint docs' := by
  intro doc mem mem'
  have above := documents.offset_lt inOrder doc mem
  have below := documents'.lt_offset inOrder documents.isFirst.mem documents.isFirst.plain ordered
    doc mem'
  omega

/-- There are comments exactly if the token directly before is one. -/
theorem ne_nil_iff (inOrder : Token.InOrder source.tokens)
    (documents : source.Documents docs node first) :
    docs ≠ [] ↔ ∃ before last after,
      source.tokens = before ++ last :: first :: after ∧ last.kind = .docComment := by
  obtain ⟨earlier, later, cut, ends⟩ := documents.parts
  constructor
  · intro filled
    obtain ⟨init, last, rfl⟩ := List.eq_nil_or_concat docs |>.resolve_left filled
    refine ⟨earlier ++ init, last, later, ?_, documents.areDocs last (by simp)⟩
    rw [cut]
    simp
  · rintro ⟨before, last, after, cut', isDoc⟩ rfl
    rw [List.append_nil] at cut
    have once := inOrder.nodup
    rw [cut] at once
    obtain ⟨once, -⟩ := List.nodup_cons.mp (List.perm_middle.nodup_iff.mp once)
    obtain ⟨notEarlier, notLater⟩ := not_or.mp (mt List.mem_append.mpr once)
    have same : earlier ++ first :: later = (before ++ [last]) ++ first :: after := by
      rw [← cut, cut', List.append_assoc]
      rfl
    obtain ⟨rfl, -, -⟩ := (List.append_cons_inj_of_notMem notEarlier notLater).mp same
    exact ends last List.getLast?_concat isDoc

end Documents

theorem documentation_of_mem_declarations (notError : node.kind ≠ "ERROR")
    (made : d ∈ declarations source scope node) :
    d.documentation = source.documentationBefore (source.startOf node) := by
  obtain ⟨-, ⟨-, element⟩ | ⟨-, documented⟩⟩ := mem_enumCase_or_starts notError made
  · obtain ⟨element, -, start, -, rfl⟩ := exists_element_of_mem_enumCase element
    rfl
  · exact documented

end Source

/-- A declaration has documentation exactly if the token directly before the first token of its node
that is no comment is a doc comment. It is then what all doc comments there say. Declarations share
none of these comments, unless they are elements of one enum case. -/
theorem outline_documentation (text : String) (root : ParseTree) (shows : ShowsStarts text root) :
    ∃ origins : List Origin, origins.map Prod.snd = (outline text root).root.walk.tail ∧
      (∀ node d, (node, d) ∈ origins →
        (∃ container parent, Container.Gives text root container parent node d) ∧
        ∃ docs first, (sourceOf text root).Documents docs node first ∧
          (d.documentation.isSome ↔ ∃ before last after,
            (sourceOf text root).tokens = before ++ last :: first :: after ∧
              last.kind = .docComment) ∧
          d.documentation =
            if docs = [] then none else some ((sourceOf text root).said docs)) ∧
      origins.Pairwise fun a b => a.1 = b.1 ∧ a.1.kind = "enum_entry" ∨
        ∀ docs docs' first second, (sourceOf text root).Documents docs a.1 first →
          (sourceOf text root).Documents docs' b.1 second → docs.Disjoint docs' := by
  have inOrder : Token.InOrder (sourceOf text root).tokens := tokens_inOrder shows.nested
  obtain ⟨origins, traced, walked⟩ := exists_origins shows
  refine ⟨origins, walked, fun node d mem => ?_, traced.ascending.imp ?_⟩
  · obtain ⟨container, parent, gives⟩ := traced.given (node, d) mem
    refine ⟨⟨container, parent, gives⟩, ?_⟩
    have notError := kind_ne_error_of_standing gives.stands
    obtain ⟨declares, -⟩ := offset_of_mem_declarations notError gives.made
    obtain ⟨first, isFirst⟩ :=
      shows.exists_firstToken (gives.within.standing_subset gives.stands) declares
    have documents := Source.documents_docsBefore inOrder isFirst
    have written : d.documentation =
        if (sourceOf text root).docsBefore first.offset = [] then none
        else some ((sourceOf text root).said ((sourceOf text root).docsBefore first.offset)) := by
      rw [Source.documentation_of_mem_declarations notError gives.made, isFirst.startOf_eq,
        Source.documentationBefore_eq]
    refine ⟨_, first, documents, ?_, written⟩
    rw [← documents.ne_nil_iff inOrder, written]
    split <;> simp [*]
  · rintro a b (sameEntry | earlier)
    · exact .inl sameEntry
    · right
      intro docs docs' first second documents documents'
      rw [documents.isFirst.startOf_eq, documents'.isFirst.startOf_eq] at earlier
      exact documents.disjoint inOrder documents' earlier

/-- An enum whose case stands in an error node, and a function with a plain comment before it. -/
def documentedText : String :=
  "/// a\nenum E\x7b\n/// b\n/// c\ncase x,y\n\x7d\n/// d\n// e\nfunc f()"

def documentedFile : ParseTree :=
  inner "source_file" 0 56 [
    inner "comment" 0 5 [],
    inner "class_declaration" 6 36 [
      { leaf "enum" 6 10 with field := some "declaration_kind" },
      { inner "type_identifier" 11 12 [] with field := some "name" },
      { inner "enum_class_body" 12 36 [
          leaf "\x7b" 12 13,
          inner "comment" 14 19 [],
          inner "comment" 20 25 [],
          inner "ERROR" 26 34 [
            inner "enum_entry" 26 34 [
              leaf "case" 26 30,
              { inner "simple_identifier" 31 32 [] with field := some "name" },
              leaf "," 32 33,
              { inner "simple_identifier" 33 34 [] with field := some "name" }]],
          leaf "\x7d" 35 36] with field := some "body" }],
    inner "comment" 37 42 [],
    inner "comment" 43 47 [],
    inner "function_declaration" 48 56 [
      leaf "func" 48 52,
      { inner "simple_identifier" 53 54 [] with field := some "name" },
      leaf "(" 54 55,
      leaf ")" 55 56]]

theorem outline_documentation_documentedFile :
    ShowsStarts documentedText documentedFile ∧
    ∃ origins : List Origin,
      origins.map (fun origin => origin.2.documentation) =
        [some "/// a", some "/// b\n/// c", some "/// b\n/// c", none] ∧
      origins.Pairwise fun a b => a.1 = b.1 ∧ a.1.kind = "enum_entry" ∨
        ∀ docs docs' first second,
          (sourceOf documentedText documentedFile).Documents docs a.1 first →
          (sourceOf documentedText documentedFile).Documents docs' b.1 second →
            docs.Disjoint docs' := by
  have shows : ShowsStarts documentedText documentedFile := by
    refine ⟨?_, by decide +kernel, by decide +kernel⟩
    simp [documentedFile, inner, leaf, Nested, NestedIn]
  obtain ⟨origins, walked, -, apart⟩ := outline_documentation documentedText documentedFile shows
  refine ⟨shows, origins, ?_, apart⟩
  have documented : (outline documentedText documentedFile).root.walk.tail.map
      Declaration.documentation =
        [some "/// a", some "/// b\n/// c", some "/// b\n/// c", none] := by decide +kernel
  rw [← documented, ← walked, List.map_map]
  rfl

end SwiftStyle.ParseTree
