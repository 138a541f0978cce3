import Mathlib.Data.List.Infix
import SwiftStyle.ParseTree.Labels

/-!
Separators that stand in brackets, for a scan that counts brackets and nothing else. A bracket that
is closed without having been opened does not count, so a part may close more than it opens. Parts
joined by commas are found again exactly if every comma in a part is met with a bracket open and
each part but the last ends with none open.
-/

namespace SwiftStyle.Labels

/-- How many brackets are open after a text, given how many were before it and the character before
it. -/
def openAfter (depth : Nat) (previous : Option Char) : List Char → Nat
  | [] => depth
  | c :: cs => openAfter (depthAfter depth previous c) (some c) cs

/-- Whether a separator is met in a text only where brackets are open. -/
def InBrackets (separator : Char) (depth : Nat) (previous : Option Char)
    (text : List Char) : Prop :=
  ∀ before, before ++ [separator] <+: text → 0 < openAfter depth previous before

instance (separator : Char) (depth : Nat) (previous : Option Char) (text : List Char) :
    Decidable (InBrackets separator depth previous text) :=
  decidable_of_iff (∀ before ∈ text.inits,
      before ++ [separator] <+: text → 0 < openAfter depth previous before) <| by
    simp only [List.mem_inits]
    constructor
    · intro inBrackets before sub
      exact inBrackets before ((List.prefix_append before [separator]).trans sub) sub
    · intro inBrackets before _ sub
      exact inBrackets before sub

section

variable {separator : Char} {depth : Nat} {previous : Option Char} {c : Char}
  {cs text piece : List Char} {pieces : List (List Char)}

theorem splitFrom_ne_nil : splitFrom separator depth previous cs ≠ [] := by
  unfold splitFrom
  split
  · simp
  · split
    · simp
    · split <;> simp

theorem splitFrom_cons_of_ne (inside : ¬(c = separator ∧ depth = 0))
    (h : splitFrom separator (depthAfter depth previous c) (some c) cs = piece :: pieces) :
    splitFrom separator depth previous (c :: cs) = (c :: piece) :: pieces := by
  rw [splitFrom, if_neg (by simpa using inside), h]

/-- Behind a comma the text is read like one of its own. -/
theorem splitFrom_comma (previous : Option Char) (cs : List Char) :
    splitFrom ',' 0 previous (',' :: cs) = [] :: split ',' cs := by
  have same : splitFrom ',' 0 (some ',') cs = split ',' cs := by
    unfold split
    cases cs with
    | nil => rfl
    | cons c cs =>
      rw [splitFrom, splitFrom]
      rfl
  rw [splitFrom, if_pos (by simp), same]

theorem inBrackets_nil : InBrackets separator depth previous [] := by
  intro before sub
  exact absurd (List.prefix_nil.mp sub) (by simp)

theorem inBrackets_cons_iff : InBrackets separator depth previous (c :: cs) ↔
    ¬(c = separator ∧ depth = 0) ∧
      InBrackets separator (depthAfter depth previous c) (some c) cs := by
  constructor
  · intro inBrackets
    constructor
    · rintro ⟨rfl, rfl⟩
      exact absurd (inBrackets [] (by simp)) (Nat.lt_irrefl 0)
    · intro before sub
      exact inBrackets (c :: before) ((List.prefix_cons_inj c).mpr sub)
  · rintro ⟨other, later⟩ before sub
    cases before with
    | nil =>
      obtain rfl : separator = c := by simpa using sub
      exact Nat.pos_of_ne_zero fun closed => other ⟨rfl, closed⟩
    | cons first before =>
      obtain ⟨rfl, below⟩ := List.cons_prefix_cons.mp sub
      exact later before below

/-- A separator before a text does not change how it is read. -/
theorem openAfter_comma (depth : Nat) (text : List Char) :
    openAfter depth (some ',') text = openAfter depth none text := by
  cases text with
  | nil => rfl
  | cons c cs => rfl

theorem inBrackets_comma_iff : InBrackets separator depth (some ',') text ↔
    InBrackets separator depth none text := by
  simp only [InBrackets, openAfter_comma]

/-- A text with its separators in brackets is read to its end, whatever is read after it. -/
theorem InBrackets.splitFrom_append {rest : List Char}
    (inBrackets : InBrackets separator depth previous text)
    (border : ∀ before, splitFrom separator (openAfter depth previous text) before rest
      = piece :: pieces) :
    splitFrom separator depth previous (text ++ rest) = (text ++ piece) :: pieces := by
  induction text generalizing depth previous with
  | nil => exact border previous
  | cons c text ih =>
    obtain ⟨other, later⟩ := inBrackets_cons_iff.mp inBrackets
    exact splitFrom_cons_of_ne other (ih later border)

theorem InBrackets.splitFrom_eq (inBrackets : InBrackets separator depth previous text) :
    splitFrom separator depth previous text = [text] := by
  have alone := inBrackets.splitFrom_append fun _ =>
    (rfl : splitFrom separator (openAfter depth previous text) _ [] = [[]])
  rwa [List.append_nil] at alone

/-- Every piece that a text is cut into has its separators in brackets, and all but the last end
with no bracket open. -/
theorem pieces_of_splitFrom_comma (h : splitFrom ',' depth previous text = piece :: pieces) :
    (InBrackets ',' depth previous piece ∧ ∀ p ∈ pieces, InBrackets ',' 0 none p) ∧
      (pieces ≠ [] → openAfter depth previous piece = 0) ∧
        ∀ p ∈ pieces.dropLast, openAfter 0 none p = 0 := by
  fun_induction splitFrom ',' depth previous text generalizing piece pieces with
  | case1 depth previous =>
    obtain ⟨rfl, rfl⟩ : [] = piece ∧ [] = pieces := by simpa using h
    exact ⟨⟨inBrackets_nil, by simp⟩, by simp, by simp⟩
  | case2 depth previous c cs isComma ih =>
    obtain ⟨rfl, rfl⟩ : c = ',' ∧ depth = 0 := by simpa using isComma
    obtain ⟨rfl, later⟩ := List.cons.inj h
    obtain ⟨next, others, cut⟩ := List.exists_cons_of_ne_nil
      (splitFrom_ne_nil : splitFrom ',' 0 (some ',') cs ≠ [])
    obtain ⟨⟨own, rest⟩, closed, closed'⟩ := ih cut
    rw [inBrackets_comma_iff] at own
    rw [openAfter_comma] at closed
    rw [← later, cut]
    refine ⟨⟨inBrackets_nil, List.forall_mem_cons.mpr ⟨own, rest⟩⟩, fun _ => rfl, ?_⟩
    cases others with
    | nil => simp
    | cons other others =>
      exact List.forall_mem_cons.mpr ⟨closed (List.cons_ne_nil _ _), closed'⟩
  | case3 depth previous c cs _ none => exact absurd none splitFrom_ne_nil
  | case4 depth previous c cs notComma first others cut ih =>
    obtain ⟨rfl, rfl⟩ := List.cons.inj h
    obtain ⟨⟨own, rest⟩, closed⟩ := ih cut
    exact ⟨⟨inBrackets_cons_iff.mpr ⟨by simpa using notComma, own⟩, rest⟩, closed⟩

/-- Parts that a scan of their text finds again: each has its commas in brackets, and each but the
last ends with no bracket open. -/
structure Separable (parts : List (List Char)) : Prop where
  inBrackets : ∀ part ∈ parts, InBrackets ',' 0 none part
  closed : ∀ part ∈ parts.dropLast, openAfter 0 none part = 0

instance (parts : List (List Char)) : Decidable (Separable parts) :=
  decidable_of_iff ((∀ part ∈ parts, InBrackets ',' 0 none part) ∧
      ∀ part ∈ parts.dropLast, openAfter 0 none part = 0)
    ⟨fun h => ⟨h.1, h.2⟩, fun h => ⟨h.inBrackets, h.closed⟩⟩

theorem Separable.split_eq {parts : List (List Char)} (nonempty : parts ≠ [])
    (h : Separable parts) : split ',' ([','].intercalate parts) = parts := by
  induction parts with
  | nil => contradiction
  | cons part parts ih =>
    obtain ⟨own, others⟩ := List.forall_mem_cons.mp h.inBrackets
    cases parts with
    | nil =>
      rw [List.intercalate_singleton]
      exact own.splitFrom_eq
    | cons next parts =>
      obtain ⟨closed, closed'⟩ := List.forall_mem_cons.mp h.closed
      have border (before : Option Char) : splitFrom ',' (openAfter 0 none part) before
          (',' :: [','].intercalate (next :: parts)) = [] :: next :: parts := by
        rw [closed, splitFrom_comma, ih (List.cons_ne_nil next parts) ⟨others, closed'⟩]
      have whole := own.splitFrom_append border
      rw [List.append_nil] at whole
      rw [List.intercalate_cons_cons, List.append_assoc]
      exact whole

/-- Cutting at commas undoes joining exactly for parts that a scan can tell apart. -/
theorem split_intercalate_iff {parts : List (List Char)} (nonempty : parts ≠ []) :
    split ',' ([','].intercalate parts) = parts ↔ Separable parts := by
  constructor
  · intro found
    obtain ⟨part, others, rfl⟩ := List.exists_cons_of_ne_nil nonempty
    obtain ⟨⟨own, rest⟩, closed, closed'⟩ := pieces_of_splitFrom_comma found
    refine ⟨List.forall_mem_cons.mpr ⟨own, rest⟩, ?_⟩
    cases others with
    | nil => simp
    | cons other others =>
      exact List.forall_mem_cons.mpr ⟨closed (List.cons_ne_nil _ _), closed'⟩
  · exact fun h => h.split_eq nonempty

end

/-! The first word of a text. -/

/-- A text of white space. -/
def IsBlank (text : List Char) : Prop := ∀ c ∈ text, Text.isBlank c = true

instance (text : List Char) : Decidable (IsBlank text) :=
  decidable_of_iff (text.all Text.isBlank = true) List.all_eq_true

theorem wordsFrom_append {word : List Char} (dense : ∀ c ∈ word, Text.isBlank c = false)
    (before rest : List Char) :
    Text.wordsFrom before (word ++ rest) = Text.wordsFrom (word.reverse ++ before) rest := by
  induction word generalizing before with
  | nil => rfl
  | cons c word ih =>
    obtain ⟨first, others⟩ := List.forall_mem_cons.mp dense
    rw [List.cons_append, Text.wordsFrom, if_neg (by simp [first]), ih others,
      List.reverse_cons, List.append_assoc, List.singleton_append]

theorem words_blank_append {gap : List Char} (blank : IsBlank gap) (rest : List Char) :
    Text.words (gap ++ rest) = Text.words rest := by
  unfold Text.words
  induction gap with
  | nil => rfl
  | cons c gap ih =>
    obtain ⟨first, others⟩ := List.forall_mem_cons.mp blank
    rw [List.cons_append, Text.wordsFrom, if_pos first, if_pos List.isEmpty_nil, ih others]

theorem words_eq_nil {gap : List Char} (blank : IsBlank gap) : Text.words gap = [] := by
  have none := words_blank_append blank []
  rwa [List.append_nil] at none

theorem head?_words {word rest : List Char} (nonempty : word ≠ [])
    (dense : ∀ c ∈ word, Text.isBlank c = false)
    (apart : ∀ c ∈ rest.head?, Text.isBlank c = true) :
    (Text.words (word ++ rest)).head? = some word := by
  unfold Text.words
  rw [wordsFrom_append dense, List.append_nil]
  cases rest with
  | nil => simp [Text.wordsFrom, nonempty]
  | cons c rest => simp [Text.wordsFrom, nonempty, apart c rfl]

/-! Labels of parameters that have a colon outside of brackets, and of those that have none. -/

theorem label_of_inBrackets {text : List Char} (inBrackets : InBrackets ':' 0 none text) :
    label false text = ['_'] := by
  unfold label split
  rw [inBrackets.splitFrom_eq]

theorem label_append {head : List Char} (inBrackets : InBrackets ':' 0 none head)
    (closed : openAfter 0 none head = 0) (tail : List Char) :
    label false (head ++ ':' :: tail) = ((Text.words head).head?.map unquote).getD ['_'] := by
  obtain ⟨piece, pieces, cut⟩ := List.exists_cons_of_ne_nil
    (splitFrom_ne_nil : splitFrom ':' 0 (some ':') tail ≠ [])
  have border (before : Option Char) : splitFrom ':' (openAfter 0 none head) before (':' :: tail)
      = [] :: piece :: pieces := by
    rw [closed, splitFrom, if_pos (by simp), cut]
  unfold label split
  rw [inBrackets.splitFrom_append border, List.append_nil]
  dsimp only
  cases Text.words head <;> rfl

end SwiftStyle.Labels
