import Mathlib.Data.List.TakeWhile
import SwiftStyle.Proofs.ParseTree.Separators
import SwiftStyle.Proofs.Text.Cut

/-!
Parameter lists cut into their entries. An entry in itself opens and closes its brackets, so a
comma between two entries is always seen with all brackets closed, and one inside an entry never is.
What is carried through the scan is that the brackets closed so far were open before.
-/

namespace SwiftStyle

namespace Text

theorem trim_eq_nil_iff {cs : List Char} : trim cs = [] ↔ ∀ c ∈ cs, isBlank c = true := by
  unfold trim trimBoth
  rw [List.reverse_eq_nil_iff, List.dropWhile_eq_nil_iff]
  constructor
  · intro blank
    apply List.dropWhile_eq_nil_iff.mp
    by_contra filled
    have first := List.head_dropWhile_not isBlank filled
    rw [blank _ (List.mem_reverse.mpr (List.head_mem filled))] at first
    cases first
  · intro blank c mem
    rw [List.dropWhile_eq_nil_iff.mpr blank] at mem
    exact absurd mem List.not_mem_nil

theorem trim_of_ends {first last : Char} (middle : List Char) (hfirst : isBlank first = false)
    (hlast : isBlank last = false) :
    trim (first :: middle ++ [last]) = first :: middle ++ [last] := by
  simp [trim, trimBoth, hfirst, hlast]

end Text

namespace Labels

def opens (c : Char) : Bool := c = '(' || c = '[' || c = '<'

/-- Whether a character closes a bracket, given the character before it. -/
def closes (previous : Option Char) (c : Char) : Bool :=
  c = ')' || c = ']' || (c = '>' && previous ≠ some '-')

/-- How many brackets a text opens. -/
def opened (text : List Char) : Nat := text.countP opens

/-- How many brackets a text closes, given the character before it. -/
def closedAfter (previous : Option Char) : List Char → Nat
  | [] => 0
  | c :: cs => (if closes previous c then 1 else 0) + closedAfter (some c) cs

/-- How many brackets a text closes. -/
def closed (text : List Char) : Nat := closedAfter none text

/-- A text that can be an entry of a list: it closes what it has opened and nothing else, and its
commas stand in brackets. -/
structure IsEntry (entry : List Char) : Prop where
  neverMore : ∀ before, before <+: entry → closed before ≤ opened before
  allClosed : closed entry = opened entry
  commasInside : ∀ before, before ++ [','] <+: entry → closed before < opened before

instance (entry : List Char) : Decidable (IsEntry entry) :=
  decidable_of_iff
    ((∀ before ∈ entry.inits, closed before ≤ opened before) ∧ closed entry = opened entry ∧
      ∀ before ∈ entry.inits, before ++ [','] <+: entry → closed before < opened before) <| by
    simp only [List.mem_inits]
    constructor
    · rintro ⟨neverMore, allClosed, commasInside⟩
      refine ⟨neverMore, allClosed, fun before sub => ?_⟩
      exact commasInside before ((List.prefix_append before [',']).trans sub) sub
    · intro h
      exact ⟨h.neverMore, h.allClosed, fun before _ => h.commasInside before⟩

/-! The scan of an entry. -/

/-- The rest of an entry, with some brackets open before it. -/
structure EndsEntry (depth : Nat) (previous : Option Char) (rest : List Char) : Prop where
  neverMore : ∀ before, before <+: rest → closedAfter previous before ≤ depth + opened before
  allClosed : closedAfter previous rest = depth + opened rest
  commasInside : ∀ before, before ++ [','] <+: rest →
    closedAfter previous before < depth + opened before

section

variable {depth : Nat} {previous : Option Char} {c separator : Char} {cs piece : List Char}
  {pieces : List (List Char)}

theorem IsEntry.endsEntry {entry : List Char} (h : IsEntry entry) : EndsEntry 0 none entry := by
  refine ⟨?_, ?_, ?_⟩ <;> simp only [Nat.zero_add]
  · exact h.neverMore
  · exact h.allClosed
  · exact h.commasInside

/-- A character changes the number of open brackets by what it opens and closes. -/
theorem depthAfter_add (enough : closes previous c = true → 0 < depth) :
    depthAfter depth previous c + (if closes previous c then 1 else 0) =
      depth + (if opens c then 1 else 0) := by
  unfold depthAfter
  unfold opens closes at *
  grind

theorem EndsEntry.tail (h : EndsEntry depth previous (c :: cs)) :
    EndsEntry (depthAfter depth previous c) (some c) cs := by
  have enough : closes previous c = true → 0 < depth := by
    intro closing
    have first := h.neverMore [c] (by simp)
    have other : opens c = false := by
      unfold opens closes at *
      grind
    simp only [closedAfter, closing, opened, List.countP_singleton, other] at first
    exact first
  have step := depthAfter_add enough
  have counted (before : List Char) : opened (c :: before) =
      (if opens c then 1 else 0) + opened before := by
    unfold opened
    rw [List.countP_cons, Nat.add_comm]
  refine ⟨?_, ?_, ?_⟩
  · intro before sub
    have whole := h.neverMore (c :: before) ((List.prefix_cons_inj c).mpr sub)
    rw [closedAfter, counted] at whole
    omega
  · have whole := h.allClosed
    rw [closedAfter, counted] at whole
    omega
  · intro before sub
    have whole := h.commasInside (c :: before) ((List.prefix_cons_inj c).mpr sub)
    rw [closedAfter, counted] at whole
    omega

theorem EndsEntry.inBrackets (h : EndsEntry depth previous cs) :
    InBrackets ',' depth previous cs := by
  induction cs generalizing depth previous with
  | nil => exact inBrackets_nil
  | cons c cs ih =>
    refine inBrackets_cons_iff.mpr ⟨?_, ih h.tail⟩
    rintro ⟨rfl, rfl⟩
    exact absurd (h.commasInside [] (by simp)) (by simp [closedAfter, opened])

theorem EndsEntry.openAfter_eq (h : EndsEntry depth previous cs) :
    openAfter depth previous cs = 0 := by
  induction cs generalizing depth previous with
  | nil => simpa [closedAfter, opened, openAfter] using h.allClosed.symm
  | cons c cs ih => exact ih h.tail

theorem separable_of_isEntry {list : List (List Char)} (entries : ∀ entry ∈ list, IsEntry entry) :
    Separable list where
  inBrackets entry mem := (entries entry mem).endsEntry.inBrackets
  closed entry mem := (entries entry (List.mem_of_mem_dropLast mem)).endsEntry.openAfter_eq

theorem split_intercalate {list : List (List Char)} (nonempty : list ≠ [])
    (entries : ∀ entry ∈ list, IsEntry entry) : split ',' ([','].intercalate list) = list :=
  (separable_of_isEntry entries).split_eq nonempty

/-! Joining what was cut. -/

theorem intercalate_splitFrom (separator : Char) (depth : Nat) (previous : Option Char)
    (cs : List Char) :
    [separator].intercalate (splitFrom separator depth previous cs) = cs := by
  fun_induction splitFrom separator depth previous cs with
  | case1 => rfl
  | case2 depth previous c cs isSeparator ih =>
    simp only [Bool.and_eq_true, decide_eq_true_eq] at isSeparator
    obtain ⟨piece, pieces, cut⟩ := List.exists_cons_of_ne_nil
      (splitFrom_ne_nil : splitFrom separator 0 (some c) cs ≠ [])
    rw [cut] at ih ⊢
    rw [List.intercalate_cons_cons, ih, isSeparator.1]
    rfl
  | case3 depth previous c cs inside none => exact absurd none splitFrom_ne_nil
  | case4 depth previous c cs inside piece pieces cut ih =>
    rw [cut] at ih
    cases pieces with
    | nil =>
      rw [List.intercalate_singleton] at ih ⊢
      rw [ih]
    | cons next pieces =>
      rw [List.intercalate_cons_cons] at ih ⊢
      rw [← ih]
      rfl

/-! Cutting at byte offsets. -/

/-- The byte offsets of the separators outside of brackets, for a text from some offset on. -/
def separatorsFrom (separator : Char) (offset depth : Nat) (previous : Option Char) :
    List Char → List Nat
  | [] => []
  | c :: cs =>
    if c = separator ∧ depth = 0 then
      offset :: separatorsFrom separator (offset + c.utf8Size) 0 (some c) cs
    else
      separatorsFrom separator (offset + c.utf8Size) (depthAfter depth previous c) (some c) cs

/-- The slices of a text from an offset on, between separators of one byte. None if a slice does not
fall on characters. -/
def slicesFrom? (text : List Char) (start : Nat) : List Nat → Option (List (List Char))
  | [] => (Text.slice? start (Text.size text) text).map fun last => [last]
  | stop :: stops => do
    let slice ← Text.slice? start stop text
    let slices ← slicesFrom? text (stop + 1) stops
    return slice :: slices

/-- The scan has read some entries and a part of the next one; slicing finds the same pieces. -/
theorem slicesFrom?_separatorsFrom (done part : List Char) (narrow : separator.utf8Size = 1)
    (h : splitFrom separator depth previous cs = piece :: pieces) :
    slicesFrom? (done ++ part ++ cs) (Text.size done)
      (separatorsFrom separator (Text.size (done ++ part)) depth previous cs) =
        some ((part ++ piece) :: pieces) := by
  induction cs generalizing done part depth previous piece pieces with
  | nil =>
    obtain ⟨rfl, rfl⟩ : [] = piece ∧ [] = pieces := by simpa [splitFrom] using h
    rw [separatorsFrom, slicesFrom?, List.append_nil, List.append_nil, Text.slice?_size_append]
    rfl
  | cons c cs ih =>
    have read : done ++ part ++ c :: cs = done ++ (part ++ [c]) ++ cs := by simp
    have offset : Text.size (done ++ part) + c.utf8Size = Text.size (done ++ (part ++ [c])) := by
      simp [Nat.add_assoc]
    rw [separatorsFrom]
    by_cases cuts : c = separator ∧ depth = 0
    · obtain ⟨rfl, rfl⟩ := cuts
      rw [splitFrom, if_pos (by simp)] at h
      obtain ⟨rfl, rest⟩ := List.cons.inj h
      obtain ⟨next, others, later⟩ := List.exists_cons_of_ne_nil
        (splitFrom_ne_nil : splitFrom c 0 (some c) cs ≠ [])
      have found : Text.slice? (Text.size done) (Text.size (done ++ part)) (done ++ part ++ c :: cs)
          = some part := by
        rw [Text.size_append]
        exact Text.slice?_append done part (c :: cs)
      have slices := ih (done ++ (part ++ [c])) [] later
      rw [List.append_nil, ← offset, narrow, List.nil_append, ← read, ← later, rest] at slices
      rw [if_pos ⟨rfl, rfl⟩, slicesFrom?, narrow, found, slices, List.append_nil]
      rfl
    · obtain ⟨first, others, later⟩ := List.exists_cons_of_ne_nil
        (splitFrom_ne_nil : splitFrom separator (depthAfter depth previous c) (some c) cs ≠ [])
      rw [splitFrom_cons_of_ne cuts later] at h
      obtain ⟨rfl, rfl⟩ := List.cons.inj h
      rw [if_neg cuts, offset, read, ih done (part ++ [c]) later, List.append_assoc]
      rfl

/-- The slices of a text between the commas outside of brackets. -/
def slices? (text : List Char) : Option (List (List Char)) :=
  slicesFrom? text 0 (separatorsFrom ',' 0 0 none text)

theorem slices?_eq (text : List Char) : slices? text = some (split ',' text) := by
  obtain ⟨piece, pieces, cut⟩ := List.exists_cons_of_ne_nil
    (splitFrom_ne_nil : splitFrom ',' 0 none text ≠ [])
  have narrow : (',').utf8Size = 1 := by decide
  exact (slicesFrom?_separatorsFrom [] [] narrow cut).trans (congrArg some cut.symm)

end

/-! Lists in parentheses. -/

theorem inner_enclosed (text : List Char) : inner ('(' :: text ++ [')']) = text := by
  unfold inner
  rw [Text.trim_of_ends text (by decide) (by decide)]
  simp

theorem entries_eq {text : List Char} (filled : ¬IsBlank (inner text)) :
    entries text = split ',' (inner text) := by
  have rest : Text.trim (inner text) ≠ [] := fun none => filled (Text.trim_eq_nil_iff.mp none)
  unfold entries
  dsimp only
  rw [if_neg (by simpa using rest)]

theorem entries_enclosed (text : List Char) (filled : ¬IsBlank text) :
    entries ('(' :: text ++ [')']) = split ',' text := by
  have inside := inner_enclosed text
  rw [entries_eq (inside.symm ▸ filled), inside]

theorem entries_enclosed_blank {text : List Char} (blank : IsBlank text) :
    entries ('(' :: text ++ [')']) = [] := by
  unfold entries
  dsimp only
  rw [inner_enclosed, if_pos]
  simpa using Text.trim_eq_nil_iff.mpr blank

theorem not_isBlank_intercalate {list : List (List Char)} (nonempty : list ≠ [])
    (filled : ∀ only, list = [only] → ¬IsBlank only) : ¬IsBlank ([','].intercalate list) := by
  match list with
  | [only] =>
    rw [List.intercalate_singleton]
    exact filled only rfl
  | first :: second :: list =>
    intro blank
    have comma : Text.isBlank ',' = true := by
      apply blank
      rw [List.intercalate_cons_cons]
      simp
    exact absurd comma (by decide)

/-- Cutting a list in parentheses gives back the entries that were joined by commas, and joining
what any text is cut into gives back what stands in its parentheses. The pieces are the slices of
the text between the commas, which all fall on characters. -/
theorem entries_undo_joining :
    (∀ list : List (List Char), list ≠ [] → (∀ entry ∈ list, IsEntry entry) →
      (∀ only, list = [only] → ¬IsBlank only) →
        entries ('(' :: [','].intercalate list ++ [')']) = list) ∧
    ∀ text, ¬IsBlank (inner text) →
      [','].intercalate (entries text) = inner text ∧
        slices? (inner text) = some (entries text) := by
  constructor
  · intro list nonempty balanced filled
    have inside := inner_enclosed ([','].intercalate list)
    rw [entries_eq (inside.symm ▸ not_isBlank_intercalate nonempty filled), inside]
    exact split_intercalate nonempty balanced
  · intro text filled
    rw [entries_eq filled]
    exact ⟨intercalate_splitFrom ',' 0 none (inner text), slices?_eq (inner text)⟩

/-- Entries with commas in brackets, an arrow, and one with nothing in it. -/
def nestedEntries : List (List Char) := ["é: [A, B]".toList, "f: (A, B) -> C<D>".toList, []]

theorem entries_undo_joining_nestedEntries :
    (nestedEntries ≠ [] ∧ (∀ entry ∈ nestedEntries, IsEntry entry) ∧
      ∀ only, nestedEntries = [only] → ¬IsBlank only) ∧
    entries "(é: [A, B],f: (A, B) -> C<D>,)".toList = nestedEntries ∧
    ¬IsBlank (inner " (a,>é<,c) ".toList) ∧
    [','].intercalate (entries " (a,>é<,c) ".toList) = "a,>é<,c".toList := by
  have nonempty : nestedEntries ≠ [] := List.cons_ne_nil _ _
  have balanced : ∀ entry ∈ nestedEntries, IsEntry entry := by decide +kernel
  have filled : ∀ only, nestedEntries = [only] → ¬IsBlank only := by simp [nestedEntries]
  have inside : inner " (a,>é<,c) ".toList = "a,>é<,c".toList := by decide +kernel
  have letter : ¬IsBlank (inner " (a,>é<,c) ".toList) := by
    intro blank
    exact absurd (blank 'a' (by rw [inside]; decide +kernel)) (by decide)
  refine ⟨⟨nonempty, balanced, filled⟩, ?_, letter, ?_⟩
  · have text : "(é: [A, B],f: (A, B) -> C<D>,)".toList =
        '(' :: [','].intercalate nestedEntries ++ [')'] := by decide +kernel
    rw [text]
    exact entries_undo_joining.1 nestedEntries nonempty balanced filled
  · rw [(entries_undo_joining.2 _ letter).1, inside]

end Labels

end SwiftStyle
