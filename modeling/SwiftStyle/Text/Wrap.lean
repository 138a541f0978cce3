import SwiftStyle.Text.Escape
import SwiftStyle.Text.Letter
import SwiftStyle.Text.LineBreak
import SwiftStyle.Text.Lines
import SwiftStyle.Text.Numeral
import SwiftStyle.Text.Width

/-!
Wrapping: laying a text out in lines of limited width. The text is cut into words where a line may
end; a word may also end after a hyphen within it, and one that is wider than a line is broken.
Then each line takes as many words as fit. Escape sequences take no columns and are no places for
a line to end.

Nothing is lost: `flatMap_toList_words`, `flatMap_toList_split` and `flatMap_toList_break` say so
of the words, `flatten_fill` of the lines. `wrap_ne_nil` says that there is always a line.
-/

namespace SwiftStyle.Text.Wrap

/-- Puts an item in front of the first of some lists. -/
def pushFront {α : Type} (a : α) : List (List α) → List (List α)
  | [] => [[a]]
  | list :: lists => (a :: list) :: lists

@[simp]
theorem flatten_pushFront {α : Type} (a : α) (lists : List (List α)) :
    (pushFront a lists).flatten = a :: lists.flatten := by
  cases lists <;> simp [pushFront]

theorem pushFront_ne_nil {α : Type} (a : α) (lists : List (List α)) :
    pushFront a lists ≠ [] := by
  cases lists <;> simp [pushFront]

/-- The columns that a text takes, by the latest version of the widths. -/
def columns (cs : List Char) : Nat :=
  (Escape.strip cs).foldl (fun total c => total + charWidth .v17 c) 0

/-- A word and the number of spaces after it. -/
structure Word where
  text : List Char
  blanks : Nat
  deriving DecidableEq, Repr

namespace Word

/-- The columns of a word without the spaces after it. -/
def width (word : Word) : Nat := columns word.text

/-- A word with the spaces after it. -/
def toList (word : Word) : List Char := word.text ++ List.replicate word.blanks ' '

/-- The word that a piece of text makes: the spaces at its end come after the word. -/
def ofPiece (piece : List Char) : Word :=
  let text := (piece.reverse.dropWhile (· = ' ')).reverse
  ⟨text, piece.length - text.length⟩

/-- The words that some texts make, with spaces after the last one. -/
def ofTexts (blanks : Nat) : List (List Char) → List Word
  | [] => []
  | [text] => [⟨text, blanks⟩]
  | text :: texts => ⟨text, 0⟩ :: ofTexts blanks texts

theorem toList_ofPiece (piece : List Char) : (ofPiece piece).toList = piece := by
  have cut : piece.reverse.takeWhile (· = ' ') ++ piece.reverse.dropWhile (· = ' ')
      = piece.reverse := List.takeWhile_append_dropWhile
  have spaces : piece.reverse.takeWhile (· = ' ')
      = List.replicate (piece.reverse.takeWhile (· = ' ')).length ' ' :=
    List.eq_replicate_of_mem fun c hc => by
      simpa using List.all_eq_true.1 (List.all_takeWhile (p := (· = ' '))) c hc
  have length := congrArg List.length cut
  have whole := congrArg List.reverse cut
  simp only [List.length_append, List.length_reverse, List.reverse_append,
    List.reverse_reverse] at length whole
  conv => rhs; rw [← whole, spaces, List.reverse_replicate]
  simp only [toList, ofPiece, List.length_reverse]
  congr 2
  omega

theorem flatMap_toList_ofTexts (blanks : Nat) {texts : List (List Char)} (h : texts ≠ []) :
    (ofTexts blanks texts).flatMap toList = texts.flatten ++ List.replicate blanks ' ' := by
  fun_induction ofTexts blanks texts with
  | case1 => contradiction
  | case2 text => simp [toList]
  | case3 text texts more ih => simp [toList, ih more]

end Word

/-- Whether a character is a hyphen, drawn always or only at the end of a line. -/
def isHyphen (c : Char) : Bool := c = '-' || c = '\u00ad'

/-- A marked text cut after those characters outside escape sequences after which a line may
end. -/
def pieces : List (Char × Bool) → List Bool → List (List Char)
  | [], _ => []
  | (c, shown) :: cs, ends =>
    if shown then
      if ends.headD false then [c] :: pieces cs ends.tail else pushFront c (pieces cs ends.tail)
    else pushFront c (pieces cs ends)

theorem flatten_pieces (cs : List (Char × Bool)) (ends : List Bool) :
    (pieces cs ends).flatten = cs.map Prod.fst := by
  fun_induction pieces cs ends <;> simp_all

/-- For each character but the last whether a line may end after it. A hyphen is no such place. -/
def endsAfter (cs : List Char) : List Bool :=
  List.zipWith (fun c breaks => breaks && !isHyphen c) cs (LineBreak.breaksBefore cs).tail

/-- Some pieces with the last two made one. -/
def joinLast : List (List Char) → List (List Char)
  | [] => []
  | [piece, last] => [piece ++ last]
  | piece :: pieces => piece :: joinLast pieces

/-- The words of a line. If the line ends with a hyphen, the last place for a line to end is no
such place. -/
def words (cs : List Char) : List Word :=
  let shown := Escape.strip cs
  let cut := pieces (Escape.marked cs) (endsAfter shown)
  (if (shown.getLast?.map isHyphen).getD false then joinLast cut else cut).map Word.ofPiece

theorem flatten_joinLast (pieces : List (List Char)) :
    (joinLast pieces).flatten = pieces.flatten := by
  fun_induction joinLast pieces <;> simp_all

/-- The words of a line and the spaces after them are the line. -/
theorem flatMap_toList_words (cs : List Char) : (words cs).flatMap Word.toList = cs := by
  have cut (pieces : List (List Char)) :
      (pieces.map Word.ofPiece).flatMap Word.toList = pieces.flatten := by
    simp [List.flatMap_def, Function.comp_def, Word.toList_ofPiece]
  simp only [words, cut]
  split <;> simp [flatten_joinLast, flatten_pieces]

/-- Whether a character is a letter or a numeral. -/
def isAlphanumeric (c : Char) : Bool := isLetter c || isNumeral c

/-- A text cut after each hyphen between letters or numerals, given the character before the
text. -/
def hyphenated (previous : Option Char) : List Char → List (List Char)
  | [] => [[]]
  | c :: cs =>
    if c = '-' && (previous.map isAlphanumeric).getD false
        && (cs.head?.map isAlphanumeric).getD false then
      [c] :: hyphenated (some c) cs
    else pushFront c (hyphenated (some c) cs)

theorem flatten_hyphenated (previous : Option Char) (cs : List Char) :
    (hyphenated previous cs).flatten = cs := by
  fun_induction hyphenated previous cs <;> simp_all

theorem hyphenated_ne_nil (previous : Option Char) (cs : List Char) :
    hyphenated previous cs ≠ [] := by
  fun_induction hyphenated previous cs <;> simp_all [pushFront_ne_nil]

/-- A marked text broken into parts that take at most so many columns, given the columns that are
taken in the first part. -/
def broken (limit taken : Nat) : List (Char × Bool) → List (List Char)
  | [] => [[]]
  | (c, shown) :: cs =>
    let width := if shown then charWidth .v17 c else 0
    if shown && 0 < taken && limit < taken + width then
      [] :: pushFront c (broken limit width cs)
    else pushFront c (broken limit (taken + width) cs)

theorem flatten_broken (limit taken : Nat) (cs : List (Char × Bool)) :
    (broken limit taken cs).flatten = cs.map Prod.fst := by
  fun_induction broken limit taken cs <;> simp_all

theorem broken_ne_nil (limit taken : Nat) (cs : List (Char × Bool)) :
    broken limit taken cs ≠ [] := by
  fun_induction broken limit taken cs <;> simp_all [pushFront_ne_nil]

/-- The words that a word makes: it may end after its hyphens. -/
def Word.split (word : Word) : List Word := Word.ofTexts word.blanks (hyphenated none word.text)

/-- The words that a word makes: one that is wider than a line is broken. -/
def Word.break (limit : Nat) (word : Word) : List Word :=
  if limit < word.width then
    Word.ofTexts word.blanks (broken limit 0 (Escape.marked word.text))
  else [word]

theorem Word.flatMap_toList_split (word : Word) :
    word.split.flatMap Word.toList = word.toList := by
  rw [split, flatMap_toList_ofTexts _ (hyphenated_ne_nil _ _), flatten_hyphenated, toList]

theorem Word.flatMap_toList_break (limit : Nat) (word : Word) :
    (word.break limit).flatMap Word.toList = word.toList := by
  unfold Word.break
  split
  · rw [flatMap_toList_ofTexts _ (broken_ne_nil _ _ _), flatten_broken, Escape.map_fst_marked,
      toList]
  · simp

/-- The lines that words fill, given the columns that are taken in the first line. A word that
does not fit starts a new line. -/
def fill (limit taken : Nat) : List Word → List (List Word)
  | [] => [[]]
  | word :: words =>
    if limit < taken + word.width then
      [] :: pushFront word (fill limit (word.width + word.blanks) words)
    else pushFront word (fill limit (taken + word.width + word.blanks) words)

@[simp]
theorem flatten_fill (limit taken : Nat) (words : List Word) :
    (fill limit taken words).flatten = words := by
  fun_induction fill limit taken words <;> simp_all

theorem fill_ne_nil (limit taken : Nat) (words : List Word) : fill limit taken words ≠ [] := by
  fun_induction fill limit taken words <;> simp_all [pushFront_ne_nil]

/-- The text of the words of a line, without the spaces after the last one. -/
def lineText : List Word → List Char
  | [] => []
  | [word] => word.text
  | word :: words => word.toList ++ lineText words

/-- A text without line ends in lines of at most so many columns. There is always a line. -/
def wrapLine (limit : Nat) (cs : List Char) : List (List Char) :=
  let words := (words cs).flatMap Word.split
  (fill limit 0 (words.flatMap (Word.break limit))).map lineText

theorem wrapLine_ne_nil (limit : Nat) (cs : List Char) : wrapLine limit cs ≠ [] := by
  simp [wrapLine, fill_ne_nil]

/-- A text in lines of at most so many columns. Its own lines are wrapped one by one. -/
def wrap (limit : Nat) (cs : List Char) : List (List Char) :=
  (segments cs).flatMap fun line =>
    wrapLine limit (if line.getLast? = some '\n' then line.dropLast else line)

/-- A wrapped text has a line. -/
theorem wrap_ne_nil (limit : Nat) (cs : List Char) : wrap limit cs ≠ [] := by
  obtain ⟨line, lines, h⟩ := List.exists_cons_of_ne_nil (segments_ne_nil cs)
  simp [wrap, h, wrapLine_ne_nil]

end SwiftStyle.Text.Wrap
