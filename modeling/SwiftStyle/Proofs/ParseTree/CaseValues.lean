import SwiftStyle.ParseTree.Outline
import SwiftStyle.Proofs.ParseTree.ParameterLists

/-!
The associated values of an enum case as its tree has them: the parts between the commas in the
parentheses. Nodes that stand in the text one after the other, with white space at most between
them, cover it, so the text in the parentheses is the texts of the values joined by commas.
-/

namespace SwiftStyle.ParseTree

namespace Source

/-- Whether there is nothing but white space between two offsets. -/
def IsGap (source : Source) (start stop : Nat) : Prop :=
  ∃ gap, Text.slice? start stop source.text = some gap ∧ Labels.IsBlank gap

instance (source : Source) (start stop : Nat) : Decidable (source.IsGap start stop) :=
  decidable_of_iff ((Text.slice? start stop source.text).any (·.all Text.isBlank) = true) <| by
    rw [Option.any_eq_true]
    simp only [IsGap, Labels.IsBlank, List.all_eq_true]

/-- Nodes that stand between two offsets one after the other, with white space at most around
them. -/
def LaidOut (source : Source) (start stop : Nat) : List ParseTree → Prop
  | [] => source.IsGap start stop
  | node :: nodes =>
    source.IsGap start node.start ∧ (Text.slice? node.start node.stop source.text).isSome ∧
      LaidOut source node.stop stop nodes

instance decidableLaidOut (source : Source) (start stop : Nat) :
    (nodes : List ParseTree) → Decidable (source.LaidOut start stop nodes)
  | [] => inferInstanceAs (Decidable (source.IsGap start stop))
  | node :: nodes =>
    have := decidableLaidOut source node.stop stop nodes
    inferInstanceAs (Decidable (_ ∧ _ ∧ _))

/-- The text between two offsets; empty if they do not fall on characters. -/
def between (source : Source) (start stop : Nat) : List Char :=
  (Text.slice? start stop source.text).getD []

section

variable {source : Source} {start stop : Nat} {node : ParseTree} {nodes : List ParseTree}

theorem between_eq {text : List Char} (found : Text.slice? start stop source.text = some text) :
    source.between start stop = text := by
  rw [between, found, Option.getD_some]

theorem slice?_eq_textOf (found : (Text.slice? node.start node.stop source.text).isSome) :
    Text.slice? node.start node.stop source.text = some (source.textOf node) := by
  obtain ⟨text, found⟩ := Option.isSome_iff_exists.mp found
  rw [textOf, ParseTree.text, found, Option.getD_some]

theorem LaidOut.exists_slice (laidOut : source.LaidOut start stop nodes) :
    ∃ text, Text.slice? start stop source.text = some text := by
  induction nodes generalizing start with
  | nil =>
    obtain ⟨gap, found, -⟩ := laidOut
    exact ⟨gap, found⟩
  | cons node nodes ih =>
    obtain ⟨⟨gap, before, -⟩, own, later⟩ := laidOut
    obtain ⟨rest, after⟩ := ih later
    exact ⟨_, Text.slice?_join (Text.slice?_join before (slice?_eq_textOf own)) after⟩

theorem LaidOut.isBlank {text : List Char} (laidOut : source.LaidOut start stop [])
    (found : Text.slice? start stop source.text = some text) : Labels.IsBlank text := by
  obtain ⟨gap, same, blank⟩ := laidOut
  obtain rfl := Option.some.inj (found.symm.trans same)
  exact blank

/-- A text that starts with a node is the gap before the node, its text and what follows it. -/
theorem LaidOut.text_cons {text : List Char} (laidOut : source.LaidOut start stop (node :: nodes))
    (found : Text.slice? start stop source.text = some text) :
    ∃ gap rest, (Text.slice? start node.start source.text = some gap ∧
        Text.slice? node.stop stop source.text = some rest) ∧
      Labels.IsBlank gap ∧ text = gap ++ (source.textOf node ++ rest) := by
  obtain ⟨⟨gap, before, blank⟩, own, later⟩ := laidOut
  obtain ⟨rest, after⟩ := later.exists_slice
  have whole := Text.slice?_join before (Text.slice?_join (slice?_eq_textOf own) after)
  exact ⟨gap, rest, ⟨before, after⟩, blank, Option.some.inj (found.symm.trans whole)⟩

theorem laidOut_append_cons {before : List ParseTree} :
    source.LaidOut start stop (before ++ node :: nodes) ↔
      source.LaidOut start node.start before ∧
        (Text.slice? node.start node.stop source.text).isSome ∧
          source.LaidOut node.stop stop nodes := by
  induction before generalizing start with
  | nil => rfl
  | cons first before ih =>
    rw [List.cons_append, LaidOut, LaidOut, ih]
    simp only [and_assoc]

end

end Source

/-- An associated value: the nodes between two commas and the bytes from one comma to the other. -/
structure CaseValue where
  start : Nat
  stop : Nat
  nodes : List ParseTree

/-- The values in some nodes, given the nodes since the last comma. -/
def valuesFrom (start stop : Nat) (seen : List ParseTree) : List ParseTree → List CaseValue
  | [] => [⟨start, stop, seen⟩]
  | node :: nodes =>
    if node.kind = "," then ⟨start, node.start, seen⟩ :: valuesFrom node.stop stop [] nodes
    else valuesFrom start stop (seen ++ [node]) nodes

def commentKinds : List String := ["comment", "multiline_comment"]

/-- The associated values in a node: its parts between commas, without the parentheses around it.
There are none if there is nothing in the parentheses that is no comment. -/
def caseValues (contents : ParseTree) : List CaseValue :=
  match contents.children.head?, contents.children.getLast? with
  | some opening, some closing =>
    let inside := contents.children.tail.dropLast
    if inside.all (commentKinds.contains ·.kind) then []
    else valuesFrom opening.stop closing.start [] inside
  | _, _ => []

/-- The kinds of nodes that name a value. -/
def nameKinds : List String := ["simple_identifier", "wildcard_pattern"]

namespace CaseValue

def text (source : Source) (value : CaseValue) : List Char := source.between value.start value.stop

def colon? (value : CaseValue) : Option ParseTree := value.nodes.find? (·.kind == ":")

/-- The nodes of a value before its colon. -/
def head (value : CaseValue) : List ParseTree := value.nodes.takeWhile (·.kind != ":")

/-- The label of a value: its first name before its colon, or an underscore if there is none. -/
def label (source : Source) (value : CaseValue) : List Char :=
  match value.colon? with
  | none => ['_']
  | some _ =>
    ((value.head.find? (nameKinds.contains ·.kind)).map fun name =>
      Labels.unquote (source.textOf name)).getD ['_']

end CaseValue

section

variable {source : Source} {start stop : Nat} {seen nodes : List ParseTree} {value : CaseValue}

theorem valuesFrom_ne_nil : valuesFrom start stop seen nodes ≠ [] := by
  fun_induction valuesFrom start stop seen nodes with
  | case1 => exact List.cons_ne_nil _ _
  | case2 => exact List.cons_ne_nil _ _
  | case3 _ _ _ _ _ ih => exact ih

/-- What stands between two offsets is the values joined by the commas that separate them. -/
theorem slice?_valuesFrom (seen : List ParseTree)
    (laidOut : source.LaidOut start stop (seen ++ nodes))
    (commas : ∀ node ∈ nodes, node.kind = "," → source.textOf node = [',']) :
    Text.slice? start stop source.text =
      some ([','].intercalate ((valuesFrom start stop seen nodes).map (·.text source))) := by
  induction nodes generalizing start seen with
  | nil =>
    rw [List.append_nil] at laidOut
    obtain ⟨text, found⟩ := laidOut.exists_slice
    rw [valuesFrom, List.map_singleton, List.intercalate_singleton, CaseValue.text,
      Source.between_eq found, found]
  | cons node nodes ih =>
    obtain ⟨own, commas⟩ := List.forall_mem_cons.mp commas
    rw [valuesFrom]
    split
    · next isComma =>
      obtain ⟨before, found, after⟩ := Source.laidOut_append_cons.mp laidOut
      obtain ⟨front, first⟩ := before.exists_slice
      have comma := Source.slice?_eq_textOf found
      rw [own isComma] at comma
      have whole := Text.slice?_join (Text.slice?_join first comma) (ih [] after commas)
      obtain ⟨next, others, values⟩ := List.exists_cons_of_ne_nil
        (valuesFrom_ne_nil : valuesFrom node.stop stop [] nodes ≠ [])
      have text : CaseValue.text source ⟨start, node.start, seen⟩ = front := Source.between_eq first
      rw [whole, values]
      simp only [List.map_cons, List.intercalate_cons_cons, text]
    · rw [List.append_cons] at laidOut
      exact ih _ laidOut commas

theorem laidOut_of_mem_valuesFrom (seen : List ParseTree)
    (laidOut : source.LaidOut start stop (seen ++ nodes))
    (mem : value ∈ valuesFrom start stop seen nodes) :
    source.LaidOut value.start value.stop value.nodes ∧ value.nodes ⊆ seen ++ nodes := by
  induction nodes generalizing start seen with
  | nil =>
    rw [List.append_nil] at laidOut ⊢
    obtain rfl := List.mem_singleton.mp mem
    exact ⟨laidOut, List.Subset.refl _⟩
  | cons node nodes ih =>
    rw [valuesFrom] at mem
    split at mem
    · obtain ⟨before, -, after⟩ := Source.laidOut_append_cons.mp laidOut
      rcases List.mem_cons.mp mem with rfl | later
      · exact ⟨before, List.subset_append_left _ _⟩
      · obtain ⟨own, sub⟩ := ih [] after later
        refine ⟨own, List.Subset.trans sub ?_⟩
        exact List.Subset.trans (List.subset_cons_self node nodes) (List.subset_append_right _ _)
    · rw [List.append_cons] at laidOut ⊢
      exact ih _ laidOut mem

end

/-! Values whose text starts with the name that their nodes start with. -/

/-- A text without white space in it. -/
structure IsWord (text : List Char) : Prop where
  nonempty : text ≠ []
  dense : ∀ c ∈ text, Text.isBlank c = false

instance (text : List Char) : Decidable (IsWord text) :=
  decidable_of_iff (text ≠ [] ∧ text.all (!Text.isBlank ·) = true) <| by
    simp only [List.all_eq_true, Bool.not_eq_true']
    exact ⟨fun h => ⟨h.1, h.2⟩, fun h => ⟨h.nonempty, h.dense⟩⟩

/-- Nodes that start with a name and go on behind a gap, if there are any. -/
def StartsWithName : List ParseTree → Prop
  | [] => True
  | name :: nodes => name.kind ∈ nameKinds ∧ ∀ next ∈ nodes.head?, name.stop < next.start

instance : (nodes : List ParseTree) → Decidable (StartsWithName nodes)
  | [] => inferInstanceAs (Decidable True)
  | _ :: _ => inferInstanceAs (Decidable (_ ∧ _))

/-- A value in which a scan for a colon outside of brackets finds the colon of the value, with the
label as the first word before it, or finds none if the value has none. -/
structure PlainlyLabelled (source : Source) (value : CaseValue) : Prop where
  unlabelled : value.colon? = none → Labels.InBrackets ':' 0 none (value.text source)
  labelled : ∀ colon ∈ value.colon?,
    (Labels.InBrackets ':' 0 none (source.between value.start colon.start) ∧
      Labels.openAfter 0 none (source.between value.start colon.start) = 0) ∧
        StartsWithName value.head

instance (source : Source) (value : CaseValue) : Decidable (PlainlyLabelled source value) :=
  decidable_of_iff
    ((value.colon?.isNone → Labels.InBrackets ':' 0 none (value.text source)) ∧
      ∀ colon ∈ value.colon?,
        (Labels.InBrackets ':' 0 none (source.between value.start colon.start) ∧
          Labels.openAfter 0 none (source.between value.start colon.start) = 0) ∧
            StartsWithName value.head) <| by
    rw [Option.isNone_iff_eq_none]
    exact ⟨fun h => ⟨h.1, h.2⟩, fun h => ⟨h.unlabelled, h.labelled⟩⟩

section

variable {source : Source} {start stop : Nat} {nodes : List ParseTree} {value : CaseValue}

theorem isBlank_head_of_laidOut {text : List Char} (laidOut : source.LaidOut start stop nodes)
    (apart : ∀ next ∈ nodes.head?, start < next.start)
    (found : Text.slice? start stop source.text = some text) :
    ∀ c ∈ text.head?, Text.isBlank c = true := by
  cases nodes with
  | nil => exact fun c first => laidOut.isBlank found c (List.mem_of_head? first)
  | cons next nodes =>
    obtain ⟨gap, rest, ⟨before, -⟩, blank, rfl⟩ := laidOut.text_cons found
    cases gap with
    | nil =>
      -- nothing in the gap, so the next node would start at once
      obtain ⟨_, _, _, _, meets⟩ := Text.slice?_eq_some_iff.mp before
      exact absurd (apart next rfl) (Nat.not_lt.mpr (Nat.le_of_eq meets.symm))
    | cons c gap =>
      intro c' first
      obtain rfl : c = c' := Option.some.inj first
      exact blank c List.mem_cons_self

/-- The first word of a text that nodes cover is the name that the nodes start with. -/
theorem head?_words_of_laidOut {text : List Char} (laidOut : source.LaidOut start stop nodes)
    (words : ∀ node ∈ nodes, node.kind ∈ nameKinds → IsWord (source.textOf node))
    (named : StartsWithName nodes) (found : Text.slice? start stop source.text = some text) :
    (Text.words text).head? =
      (nodes.find? (nameKinds.contains ·.kind)).map source.textOf := by
  cases nodes with
  | nil =>
    rw [Labels.words_eq_nil (laidOut.isBlank found)]
    rfl
  | cons name nodes =>
    obtain ⟨gap, rest, ⟨-, after⟩, blank, rfl⟩ := laidOut.text_cons found
    obtain ⟨isName, apart⟩ := named
    have isWord := words name List.mem_cons_self isName
    have first : nameKinds.contains name.kind = true := List.contains_iff_mem.mpr isName
    have goesOn := isBlank_head_of_laidOut laidOut.2.2 apart after
    rw [Labels.words_blank_append blank, Labels.head?_words isWord.nonempty isWord.dense goesOn,
      List.find?_cons, first, Option.map_some]

theorem exists_cut_of_colon? {colon : ParseTree} (found : value.colon? = some colon) :
    colon.kind = ":" ∧ ∃ tail, value.nodes = value.head ++ colon :: tail := by
  obtain ⟨isColon, before, tail, cut, others⟩ := List.find?_eq_some_iff_append.mp found
  have first : value.head = before := by
    rw [CaseValue.head, cut, List.takeWhile_append_of_pos (by simpa [bne] using others),
      List.takeWhile_cons_of_neg (by simpa using isColon), List.append_nil]
  exact ⟨by simpa using isColon, tail, first.symm ▸ cut⟩

/-- The label that is read from the text of a value is the one that its nodes spell. -/
theorem PlainlyLabelled.label_eq (plain : PlainlyLabelled source value)
    (laidOut : source.LaidOut value.start value.stop value.nodes)
    (colons : ∀ node ∈ value.nodes, node.kind = ":" → source.textOf node = [':'])
    (words : ∀ node ∈ value.nodes, node.kind ∈ nameKinds → IsWord (source.textOf node)) :
    Labels.label false (value.text source) = value.label source := by
  cases found : value.colon? with
  | none =>
    rw [Labels.label_of_inBrackets (plain.unlabelled found), CaseValue.label, found]
  | some colon =>
    obtain ⟨⟨inBrackets, closed⟩, named⟩ := plain.labelled colon found
    obtain ⟨isColon, tail, cut⟩ := exists_cut_of_colon? found
    rw [cut] at laidOut colons words
    obtain ⟨front, own, back⟩ := Source.laidOut_append_cons.mp laidOut
    obtain ⟨before, first⟩ := front.exists_slice
    obtain ⟨rest, after⟩ := back.exists_slice
    rw [Source.between_eq first] at inBrackets closed
    have middle := Source.slice?_eq_textOf own
    rw [colons colon (by simp) isColon] at middle
    have whole := Text.slice?_join (Text.slice?_join first middle) after
    have word := head?_words_of_laidOut front
      (fun node mem => words node (List.mem_append_left _ mem)) named first
    rw [CaseValue.label, found, CaseValue.text, Source.between_eq whole, List.append_assoc,
      List.singleton_append, Labels.label_append inBrackets closed, word, Option.map_map]
    rfl

end

/-- The kinds of nodes that are spelled like their kind. -/
def separatorKinds : List String := ["(", ",", ":", ")"]

/-- Associated values in parentheses with a tree that agrees with the text. -/
structure Agrees (source : Source) (contents : ParseTree) : Prop where
  laidOut : source.LaidOut contents.start contents.stop contents.children
  spelled : ∀ node ∈ contents.children, node.kind ∈ separatorKinds →
    source.textOf node = node.kind.toList
  words : ∀ node ∈ contents.children, node.kind ∈ nameKinds → IsWord (source.textOf node)
  enclosed : ∃ opening inside closing, contents.children = opening :: (inside ++ [closing]) ∧
    (opening.kind = "(" ∧ opening.start = contents.start) ∧
      closing.kind = ")" ∧ closing.stop = contents.stop

/-- Associated values that a scan of the text between the parentheses tells apart: it meets their
commas only in brackets, and those between them outside of brackets; and there is nothing but white
space to be scanned just if there are no values. -/
structure TellsApart (source : Source) (contents : ParseTree) : Prop where
  separable : Labels.Separable ((caseValues contents).map (·.text source))
  blank : Labels.IsBlank (Labels.inner (source.textOf contents)) ↔ caseValues contents = []

section

variable {source : Source} {contents opening closing : ParseTree} {inside : List ParseTree}
  {value : CaseValue}

theorem caseValues_eq (cut : contents.children = opening :: (inside ++ [closing])) :
    caseValues contents =
      if inside.all (commentKinds.contains ·.kind) then []
      else valuesFrom opening.stop closing.start [] inside := by
  have last : contents.children.getLast? = some closing := by
    rw [cut, ← List.cons_append, List.getLast?_concat]
  rw [caseValues, last, cut, List.head?_cons, List.tail_cons, List.dropLast_concat]

theorem Agrees.exists_inside (agrees : Agrees source contents) :
    ∃ inside, source.textOf contents = '(' :: inside ++ [')'] ∧
      (caseValues contents ≠ [] →
        inside = [','].intercalate ((caseValues contents).map (·.text source))) := by
  obtain ⟨opening, inside, closing, cut, ⟨isOpening, start⟩, isClosing, stop⟩ := agrees.enclosed
  have laidOut := agrees.laidOut
  have spelled := agrees.spelled
  rw [cut] at laidOut spelled
  obtain ⟨-, found, later⟩ := laidOut
  obtain ⟨within, found', -⟩ := Source.laidOut_append_cons.mp later
  obtain ⟨text, middle⟩ := within.exists_slice
  have first := Source.slice?_eq_textOf found
  rw [spelled opening (by simp) (by simp [isOpening, separatorKinds]), isOpening, start] at first
  have last := Source.slice?_eq_textOf found'
  rw [spelled closing (by simp) (by simp [isClosing, separatorKinds]), isClosing, stop] at last
  refine ⟨text, ?_, ?_⟩
  · rw [Source.textOf, ParseTree.text, Text.slice?_join (Text.slice?_join first middle) last,
      Option.getD_some]
    rfl
  · intro nonempty
    rw [caseValues_eq cut] at nonempty ⊢
    rw [if_neg (fun none => nonempty (if_pos none))]
    have joined := slice?_valuesFrom [] within fun node mem isComma => by
      rw [spelled node (by simp [mem]) (by simp [isComma, separatorKinds]), isComma]
      rfl
    exact Option.some.inj (middle.symm.trans joined)

theorem Agrees.of_mem_caseValues (agrees : Agrees source contents)
    (mem : value ∈ caseValues contents) :
    source.LaidOut value.start value.stop value.nodes ∧ value.nodes ⊆ contents.children := by
  obtain ⟨opening, inside, closing, cut, -⟩ := agrees.enclosed
  have laidOut := agrees.laidOut
  rw [cut] at laidOut ⊢
  obtain ⟨within, -⟩ := Source.laidOut_append_cons.mp laidOut.2.2
  rw [caseValues_eq cut] at mem
  split at mem
  · exact absurd mem List.not_mem_nil
  · obtain ⟨own, sub⟩ := laidOut_of_mem_valuesFrom [] within mem
    refine ⟨own, List.Subset.trans sub ?_⟩
    exact List.Subset.trans (List.subset_append_left inside [closing]) (List.subset_cons_self _ _)

/-- The entries that are read from the text are the values of the tree exactly if the scan can tell
these apart. -/
theorem Agrees.entries_eq_iff (agrees : Agrees source contents) :
    Labels.entries (source.textOf contents) = (caseValues contents).map (·.text source) ↔
      TellsApart source contents := by
  obtain ⟨inside, text, joined⟩ := agrees.exists_inside
  have inner : Labels.inner (source.textOf contents) = inside :=
    text ▸ Labels.inner_enclosed inside
  have apart : TellsApart source contents ↔
      Labels.Separable ((caseValues contents).map (·.text source)) ∧
        (Labels.IsBlank inside ↔ caseValues contents = []) :=
    ⟨fun h => ⟨h.separable, inner ▸ h.blank⟩, fun h => ⟨h.1, inner.symm ▸ h.2⟩⟩
  rw [apart, text]
  by_cases blank : Labels.IsBlank inside
  · rw [Labels.entries_enclosed_blank blank, iff_true_left blank, eq_comm, List.map_eq_nil_iff,
      and_iff_right_of_imp]
    intro none
    rw [none]
    exact ⟨by simp, by simp⟩
  · rw [Labels.entries_enclosed inside blank, iff_false_left blank]
    by_cases none : caseValues contents = []
    · rw [none]
      simp [Labels.split, Labels.splitFrom_ne_nil]
    · rw [joined none, Labels.split_intercalate_iff (by simpa using none), and_iff_left none]

/-- Labels that are read from the text of values told apart are those that the values spell. -/
theorem Agrees.joined_entries_eq (agrees : Agrees source contents)
    (apart : TellsApart source contents)
    (plain : ∀ value ∈ caseValues contents, PlainlyLabelled source value) :
    Labels.joined false (Labels.entries (source.textOf contents)) =
      (caseValues contents).flatMap fun value => value.label source ++ [':'] := by
  rw [agrees.entries_eq_iff.mpr apart, Labels.joined, List.flatMap_map]
  apply List.flatMap_congr
  intro value mem
  obtain ⟨laidOut, sub⟩ := agrees.of_mem_caseValues mem
  have colons : ∀ node ∈ value.nodes, node.kind = ":" → source.textOf node = [':'] := by
    intro node inside isColon
    rw [agrees.spelled node (sub inside) (by simp [isColon, separatorKinds]), isColon]
    rfl
  rw [(plain value mem).label_eq laidOut colons fun node inside => agrees.words node (sub inside)]

end

end SwiftStyle.ParseTree
