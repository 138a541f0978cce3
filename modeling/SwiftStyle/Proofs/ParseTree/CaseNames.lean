import SwiftStyle.Proofs.ParseTree.CaseValues
import SwiftStyle.Proofs.ParseTree.Containment
import SwiftStyle.Proofs.ParseTree.Members

/-!
The names of the elements of an enum case. A name among the children of the case opens an element,
and the children up to the next name extend it, so what is carried through the children is the name
of the last element so far.

The labels in a name are found by scanning the text of the associated values. The scan counts
brackets and knows no string literals, operators or comments, so the labels are those of the tree
only if the scan can tell the values apart and meets their colons outside of brackets.
-/

namespace SwiftStyle.ParseTree

def isCaseName (node : ParseTree) : Bool := node.field == some "name"

/-- The names among the children of an enum case, each with the children up to the next name. -/
def elementNodes : List ParseTree → List (ParseTree × List ParseTree)
  | [] => []
  | node :: nodes =>
    if isCaseName node then (node, nodes.takeWhile (!isCaseName ·)) :: elementNodes nodes
    else elementNodes nodes

/-- The nodes that hold associated values. -/
def contentsIn (nodes : List ParseTree) : List ParseTree :=
  nodes.filter (·.field == some "data_contents")

/-- A name with the labels of the associated values in some nodes. -/
def extendName (source : Source) (name : List Char) (nodes : List ParseTree) : List Char :=
  (contentsIn nodes).foldl
    (fun name contents =>
      withLabels name (Labels.joined false (Labels.entries (source.textOf contents))))
    name

/-- The name of an element of an enum case. -/
def elementName (source : Source) (element : ParseTree × List ParseTree) : List Char :=
  extendName source (Labels.unquote (source.textOf element.1)) element.2

section

variable {source : Source} {node name contents : ParseTree}
  {nodes others : List ParseTree} {element : CaseElement} {earlier : List CaseElement}

theorem extendName_cons (base : List Char) :
    extendName source base (node :: nodes) =
      extendName source (extendName source base [node]) nodes := by
  unfold extendName contentsIn
  rw [← List.foldl_append, ← List.filter_append, List.singleton_append]

theorem addToCase_of_isCaseName (elements : List CaseElement) (isName : isCaseName node = true) :
    addToCase source elements node =
      ⟨node.start, node.stop, Labels.unquote (source.textOf node)⟩ :: elements :=
  if_pos (by simpa [isCaseName] using isName)

theorem exists_addToCase (notName : isCaseName node = false) :
    ∃ extended, addToCase source (element :: earlier) node = extended :: earlier ∧
      extended.name = extendName source element.name [node] := by
  unfold isCaseName at notName
  unfold addToCase extendName contentsIn
  rw [if_neg (by simpa using notName)]
  by_cases holdsValues : node.field = some "data_contents"
  · simp [holdsValues]
  · by_cases isRaw : node.field = some "raw_value" <;> simp [holdsValues, isRaw]

theorem map_name_foldl_addToCase :
    (nodes.foldl (addToCase source) (element :: earlier)).map CaseElement.name =
      ((elementNodes nodes).map (elementName source)).reverse ++
        extendName source element.name (nodes.takeWhile (!isCaseName ·)) ::
          earlier.map CaseElement.name := by
  induction nodes generalizing element earlier with
  | nil => rfl
  | cons node nodes ih =>
    rw [List.foldl_cons, elementNodes, List.takeWhile_cons]
    cases isName : isCaseName node with
    | true =>
      rw [addToCase_of_isCaseName _ isName, ih]
      simp [elementName, extendName, contentsIn]
    | false =>
      obtain ⟨extended, added, same⟩ := @exists_addToCase source node element earlier isName
      rw [added, ih, same, ← extendName_cons]
      rfl

theorem map_name_caseElements (source : Source) (entry : ParseTree) :
    (caseElements source entry).map CaseElement.name =
      (elementNodes entry.children).map (elementName source) := by
  unfold caseElements
  rw [List.map_reverse, List.reverse_eq_iff]
  induction entry.children with
  | nil => rfl
  | cons node nodes ih =>
    rw [List.foldl_cons, elementNodes]
    cases isName : isCaseName node with
    | true =>
      rw [addToCase_of_isCaseName _ isName, map_name_foldl_addToCase]
      simp [elementName]
    | false =>
      -- what stands before the first name extends nothing
      have dropped : addToCase source [] node = [] := if_neg (by simpa [isCaseName] using isName)
      rw [dropped, ih]
      simp

/-- An enum case makes one declaration for each name in it, with the name of its element. -/
theorem map_name_enumCase (source : Source) (scope : Scope) (entry : ParseTree) :
    (enumCase source scope entry).map Declaration.name =
      (elementNodes entry.children).map fun element =>
        some (String.ofList (elementName source element)) := by
  have names := congrArg (List.map (some ∘ String.ofList))
    (map_name_caseElements source entry)
  rw [List.map_map, List.map_map] at names
  refine Eq.trans ?_ names
  unfold enumCase
  cases caseElements source entry with
  | nil => rfl
  | cons first later => simp [caseElement]

theorem elementName_of_contentsIn (only : contentsIn others = [contents]) :
    elementName source (name, others) =
      withLabels (Labels.unquote (source.textOf name))
        (Labels.joined false (Labels.entries (source.textOf contents))) := by
  unfold elementName extendName
  rw [only]
  rfl

/-- An enum case makes one declaration for each of its elements. The values that are read for the
labels of an element are those in its tree exactly if the scan of their text tells them apart. If it
does, and their colons stand plainly in the text, the element has its own name with one label for
each value, in order. -/
theorem enumCase_labels_values (source : Source) (scope : Scope) (entry : ParseTree)
    (isEntry : entry.kind = "enum_entry") :
    (declarations source scope entry).length = (elementNodes entry.children).length ∧
    ∀ (i : Nat) (name contents : ParseTree) (others : List ParseTree),
      (elementNodes entry.children)[i]? = some (name, others) →
      contentsIn others = [contents] → Agrees source contents →
        (Labels.entries (source.textOf contents) = (caseValues contents).map (·.text source) ↔
          TellsApart source contents) ∧
        (TellsApart source contents →
          (∀ value ∈ caseValues contents, PlainlyLabelled source value) →
            ∃ d : Declaration, (declarations source scope entry)[i]? = some d ∧
              d.name = some (String.ofList
                (withLabels (Labels.unquote (source.textOf name))
                  ((caseValues contents).flatMap fun value => value.label source ++ [':'])))) := by
  rw [declarations_of_enum_entry isEntry]
  have names := map_name_enumCase source scope entry
  constructor
  · have lengths := congrArg List.length names
    rwa [List.length_map, List.length_map] at lengths
  · intro i name contents others found only agrees
    refine ⟨agrees.entries_eq_iff, fun apart plain => ?_⟩
    have own := congrArg (·[i]?) names
    rw [List.getElem?_map, List.getElem?_map, found, Option.map_some, Option.map_eq_some_iff] at own
    obtain ⟨d, made, named⟩ := own
    refine ⟨d, made, named.trans ?_⟩
    rw [elementName_of_contentsIn only, agrees.joined_entries_eq apart plain]

end

/-- A node in a role. -/
def inRole (role : String) (node : ParseTree) : ParseTree := { node with field := some role }

/-- The associated values in
`case a(_ x: [A: B], f: (A, B) -> C<D>, y: String = "é", Int), b`. -/
def fourValues : ParseTree :=
  inRole "data_contents" <| inner "enum_type_parameters" 6 61 [leaf "(" 6 7,
    inner "wildcard_pattern" 7 8 [], inner "simple_identifier" 9 10 [], leaf ":" 10 11,
    inRole "name" (inner "dictionary_type" 12 18 []), leaf "," 18 19,
    inner "simple_identifier" 20 21 [], leaf ":" 21 22,
    inRole "name" (inner "function_type" 23 37 []), leaf "," 37 38,
    inner "simple_identifier" 39 40 [], leaf ":" 40 41,
    inRole "name" (inner "user_type" 42 48 [inner "type_identifier" 42 48 []]), leaf "=" 49 50,
    inner "line_string_literal" 51 55 [leaf "\"" 51 52,
      inRole "text" (inner "line_str_text" 52 54 []), leaf "\"" 54 55], leaf "," 55 56,
    inRole "name" (inner "user_type" 57 60 [inner "type_identifier" 57 60 []]), leaf ")" 60 61]

def twoElements : ParseTree :=
  inner "enum_entry" 0 64 [leaf "case" 0 4, inRole "name" (inner "simple_identifier" 5 6 []),
    fourValues, leaf "," 61 62, inRole "name" (inner "simple_identifier" 63 64 [])]

def twoElementsSource : Source :=
  sourceOf "case a(_ x: [A: B], f: (A, B) -> C<D>, y: String = \"é\", Int), b" twoElements

theorem enumCase_labels_values_twoElements :
    twoElements.kind = "enum_entry" ∧ Agrees twoElementsSource fourValues ∧
    TellsApart twoElementsSource fourValues ∧
    (∀ value ∈ caseValues fourValues, PlainlyLabelled twoElementsSource value) ∧
    ∃ d : Declaration, (declarations twoElementsSource .file twoElements)[0]? = some d ∧
      d.name = some "a(_:f:y:_:)" := by
  have agrees : Agrees twoElementsSource fourValues :=
    ⟨by decide +kernel, by decide +kernel, by decide +kernel,
      _, fourValues.children.tail.dropLast, _, rfl, ⟨rfl, rfl⟩, rfl, rfl⟩
  have apart : TellsApart twoElementsSource fourValues := ⟨by decide +kernel, by decide +kernel⟩
  have plain : ∀ value ∈ caseValues fourValues, PlainlyLabelled twoElementsSource value := by
    decide +kernel
  refine ⟨rfl, agrees, apart, plain, ?_⟩
  obtain ⟨d, made, named⟩ :=
    ((enumCase_labels_values twoElementsSource .file twoElements rfl).2 0 _ fourValues _ rfl rfl
      agrees).2 apart plain
  exact ⟨d, made, named.trans (by decide +kernel)⟩

def commaText : String := "enum E \x7b\n  case a(x: String = \",\")\n\x7d\n"

/-- The one associated value in `commaText`, with a default that has a comma in it. -/
def commaValue : ParseTree :=
  inRole "data_contents" <| inner "enum_type_parameters" 17 34 [leaf "(" 17 18,
    inner "simple_identifier" 18 19 [], leaf ":" 19 20,
    inRole "name" (inner "user_type" 21 27 [inner "type_identifier" 21 27 []]), leaf "=" 28 29,
    inner "line_string_literal" 30 33 [leaf "\"" 30 31,
      inRole "text" (inner "line_str_text" 31 32 []), leaf "\"" 32 33], leaf ")" 33 34]

def commaName : ParseTree := inRole "name" (inner "simple_identifier" 16 17 [])

def commaEntry : ParseTree := inner "enum_entry" 11 34 [leaf "case" 11 15, commaName, commaValue]

def commaFile : ParseTree :=
  inner "source_file" 0 37 [inner "class_declaration" 0 36 [
    inRole "declaration_kind" (leaf "enum" 0 4), inRole "name" (inner "type_identifier" 5 6 []),
    inRole "body" (inner "enum_class_body" 7 36 [leaf "\x7b" 7 8, commaEntry, leaf "\x7d" 35 36])]]

/-- A comma in a string literal adds a label to the name of an element with one value. -/
theorem commaEntry_name :
    commaEntry ∈ nodes commaFile ∧ commaEntry.kind = "enum_entry" ∧
    elementNodes commaEntry.children = [(commaName, [commaValue])] ∧
    contentsIn [commaValue] = [commaValue] ∧ Agrees (sourceOf commaText commaFile) commaValue ∧
    (caseValues commaValue).map (·.label (sourceOf commaText commaFile)) = ["x".toList] ∧
    (outline commaText commaFile).root.walk.map Declaration.name =
      [none, some "E", some "a(x:_:)"] := by
  have agrees : Agrees (sourceOf commaText commaFile) commaValue :=
    ⟨by decide +kernel, by decide +kernel, by decide +kernel,
      _, commaValue.children.tail.dropLast, _, rfl, ⟨rfl, rfl⟩, rfl, rfl⟩
  have within : commaEntry ∈ nodes commaFile := List.mem_of_getElem? (i := 6) rfl
  exact ⟨within, rfl, rfl, rfl, agrees, by decide +kernel, by decide +kernel⟩

end SwiftStyle.ParseTree
