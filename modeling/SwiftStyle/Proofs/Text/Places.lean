import Mathlib.Data.List.Basic
import SwiftStyle.Location
import SwiftStyle.Proofs.Text.Cut
import SwiftStyle.Report.Excerpt

/-!
Places in a text. A line stands between two parts of its text, and an offset before the end of the
text is in one line and has a column there. So a position that points at a line of the text, or at a
character of it, is never resolved to a stand-in.
-/

namespace SwiftStyle.Text

theorem size_toList (text : String) : size text.toList = text.utf8ByteSize := by
  have encoded (cs : List Char) : size cs = cs.utf8Encode.size := by
    induction cs with
    | nil => rfl
    | cons c cs ih =>
      rw [size_cons, ih, List.utf8Encode_cons, ByteArray.size_append]
      simp [List.utf8Encode]
  rw [encoded, ← String.toByteArray_ofList, String.ofList_toList]
  rfl

theorem chomp_prefix (piece : List Char) : chomp piece <+: piece := by
  have cut (c : Char) (cs : List Char) :
      (if cs.getLast? = some c then cs.dropLast else cs) <+: cs := by
    split
    · exact List.dropLast_prefix cs
    · exact List.prefix_refl cs
  exact (cut '\r' _).trans (cut '\n' piece)

/-- Whether an offset is that of a character of a text. -/
structure IsCharacter (text : String) (offset : Nat) : Prop where
  inside : offset < text.utf8ByteSize
  onCharacter : isBoundary offset text.toList = true

/-! The pieces of a text and its lines. -/

section

variable {number offset o i : Nat} {pieces : List (List Char)} {cs : List Char} {line : Line}

theorem linesFrom_cons_of_ne_nil {piece : List Char} (filled : piece ≠ [] ∨ pieces ≠ []) :
    linesFrom number offset (piece :: pieces) =
      ⟨number, offset, chomp piece⟩ :: linesFrom (number + 1) (offset + size piece) pieces := by
  rw [linesFrom, if_neg]
  rcases filled with filled | filled <;> simp [filled]

/-- A line is a piece without its end, and what comes before it are the pieces before. -/
theorem exists_of_linesFrom (found : (linesFrom number offset pieces)[i]? = some line) :
    ∃ front piece back, pieces = front ++ piece :: back ∧ front.length = i ∧
      line.number = number + i ∧ line.offset = offset + size front.flatten ∧
      line.content = chomp piece := by
  induction pieces generalizing number offset i with
  | nil => cases found
  | cons piece pieces ih =>
    rw [linesFrom] at found
    split at found
    · cases found
    · cases i with
      | zero =>
        obtain rfl := Option.some.inj found
        exact ⟨[], piece, pieces, rfl, rfl, rfl, rfl, rfl⟩
      | succ i =>
        obtain ⟨front, own, back, rfl, rfl, numbered, starts, content⟩ := ih found
        refine ⟨piece :: front, own, back, rfl, rfl, ?_, ?_, content⟩
        · rw [numbered]
          omega
        · rw [starts, List.flatten_cons, size_append, Nat.add_assoc]

theorem le_of_mem_offsetsFrom (mem : o ∈ offsetsFrom offset pieces) : offset ≤ o := by
  induction pieces generalizing offset with
  | nil => exact absurd mem List.not_mem_nil
  | cons piece pieces ih =>
    rcases List.mem_cons.mp mem with rfl | later
    · exact Nat.le_refl o
    · exact Nat.le_trans (Nat.le_add_right _ _) (ih later)

theorem countP_offsetsFrom_of_lt (before : o < offset) :
    (offsetsFrom offset pieces).countP (· ≤ o) = 0 := by
  apply List.countP_eq_zero.mpr
  intro start mem
  have := le_of_mem_offsetsFrom mem
  simp only [decide_eq_true_eq]
  omega

/-- The starts of the pieces up to an offset lead to the line that it is in. -/
theorem exists_line_from (number : Nat) (first : offset ≤ o)
    (last : o < offset + size pieces.flatten) :
    ∃ k line, (offsetsFrom offset pieces).countP (· ≤ o) = k + 1 ∧
      (offsetsFrom offset pieces)[k]? = some line.offset ∧
      (linesFrom number offset pieces)[k]? = some line ∧ line.offset ≤ o := by
  induction pieces generalizing number offset with
  | nil => exact absurd last (Nat.not_lt.mpr first)
  | cons piece pieces ih =>
    rw [List.flatten_cons, size_append] at last
    have filled : piece ≠ [] ∨ pieces ≠ [] := by
      by_contra empty
      push Not at empty
      obtain ⟨rfl, rfl⟩ := empty
      simp only [size_nil, List.flatten_nil] at last
      omega
    rw [linesFrom_cons_of_ne_nil filled, offsetsFrom,
      List.countP_cons_of_pos (by simpa using first)]
    by_cases inside : o < offset + size piece
    · -- no other piece starts up to here
      exact ⟨0, _, by rw [countP_offsetsFrom_of_lt inside], rfl, rfl, first⟩
    · have later : o < offset + size piece + size pieces.flatten := by omega
      obtain ⟨k, line, counted, starts, found, before⟩ :=
        ih (number + 1) (Nat.not_lt.mp inside) later
      exact ⟨k + 1, line, by rw [counted], starts, found, before⟩

theorem line?_eq_some_iff : line? (i + 1) cs = some line ↔ (lines cs)[i]? = some line := by
  rw [line?, if_neg (Nat.succ_ne_zero i), Nat.add_sub_cancel]

theorem le_lineCount (found : line? number cs = some line) : 1 ≤ number ∧ number ≤ lineCount cs := by
  cases number with
  | zero => cases found
  | succ i =>
    refine ⟨Nat.le_add_left 1 i, ?_⟩
    exact (List.getElem?_eq_some_iff.mp (line?_eq_some_iff.mp found)).1

theorem line?_of_mem_lines (mem : line ∈ lines cs) : line? line.number cs = some line := by
  obtain ⟨i, found⟩ := List.mem_iff_getElem?.mp mem
  obtain ⟨-, -, -, -, -, numbered, -⟩ := exists_of_linesFrom found
  rw [numbered, Nat.add_comm]
  exact line?_eq_some_iff.mpr found

/-- The content of a line stands between two parts of the text. -/
theorem exists_parts_of_line (found : line? number cs = some line) :
    ∃ before after, cs = before ++ line.content ++ after ∧ size before = line.offset := by
  cases number with
  | zero => cases found
  | succ i =>
    obtain ⟨front, piece, back, pieces, -, -, starts, content⟩ :=
      exists_of_linesFrom (line?_eq_some_iff.mp found)
    obtain ⟨ending, whole⟩ := chomp_prefix piece
    refine ⟨front.flatten, ending ++ back.flatten, ?_, by rw [starts, Nat.zero_add]⟩
    calc cs = (segments cs).flatten := (flatten_segments cs).symm
      _ = front.flatten ++ (piece ++ back.flatten) := by
        rw [pieces, List.flatten_append, List.flatten_cons]
      _ = front.flatten ++ line.content ++ (ending ++ back.flatten) := by
        conv_lhs => rw [← whole]
        simp only [content, List.append_assoc]

theorem le_size_of_isBoundary (onCharacter : isBoundary o cs = true) : o ≤ size cs := by
  obtain ⟨before, after, rfl, rfl⟩ := isBoundary_iff.mp onCharacter
  rw [size_append]
  exact Nat.le_add_right _ _

theorem bounds_of_slice? {start stop : Nat} {part : List Char}
    (found : slice? start stop cs = some part) : start ≤ stop ∧ stop ≤ size cs := by
  obtain ⟨before, after, rfl, rfl, rfl⟩ := slice?_eq_some_iff.mp found
  constructor
  · exact Nat.le_add_right _ _
  · rw [← size_append, size_append (before ++ part)]
    exact Nat.le_add_right _ _

/-- An offset of a character is in a line, and its column counts what stands before it there. -/
theorem locate_spec (inside : o < size cs) (onCharacter : isBoundary o cs = true) :
    ∃ line before, line? (locate o cs).1 cs = some line ∧
      slice? line.offset o cs = some before ∧
      (locate o cs).2 = Cluster.count before + 1 := by
  have whole : o < 0 + size (segments cs).flatten := by rwa [flatten_segments, Nat.zero_add]
  obtain ⟨k, line, counted, starts, found, before⟩ :=
    exists_line_from 1 (Nat.zero_le o) whole
  have isLine : line? (k + 1) cs = some line := line?_eq_some_iff.mpr found
  obtain ⟨front, rest, parts, size⟩ := exists_parts_of_line isLine
  have lineStart : isBoundary line.offset cs = true :=
    isBoundary_iff.mpr ⟨front, _, parts.trans (List.append_assoc _ _ _), size⟩
  obtain ⟨first, part, last, cut, startsAt, stopsAt⟩ := exists_parts before lineStart onCharacter
  have between : slice? line.offset o cs = some part :=
    slice?_eq_some_iff.mpr ⟨first, last, cut, startsAt, stopsAt⟩
  have located : locate o cs = (k + 1, Cluster.count part + 1) := by
    simp only [locate, Nat.min_eq_left (Nat.le_of_lt inside), lineStarts, counted,
      Nat.add_sub_cancel, List.getD_eq_getElem?_getD, starts, Option.getD_some, between]
  rw [located]
  exact ⟨line, part, isLine, between, rfl⟩

end

end SwiftStyle.Text

namespace SwiftStyle

/-- A position that points at a line of a text, or at a character of it. -/
inductive Position.PointsInto (text : String) : Position → Prop
  | line {number : Nat} {line : Text.Line} : Text.line? number text.toList = some line →
      PointsInto text (.line number)
  | offset {bytes : Nat} : Text.IsCharacter text bytes → PointsInto text (.offset bytes)

namespace Position.PointsInto

variable {text : String} {position : Position}

theorem isLine_or_isCharacter (h : PointsInto text position) :
    (∃ number line, position = .line number ∧ 1 ≤ number ∧
      number ≤ Text.lineCount text.toList ∧ Text.line? number text.toList = some line) ∨
    ∃ bytes, position = .offset bytes ∧ bytes < text.utf8ByteSize ∧
      Text.isBoundary bytes text.toList = true := by
  cases h with
  | @line number line found =>
    obtain ⟨first, last⟩ := Text.le_lineCount found
    exact .inl ⟨number, line, rfl, first, last, found⟩
  | @offset bytes isCharacter =>
    exact .inr ⟨bytes, rfl, isCharacter.inside, isCharacter.onCharacter⟩

/-- The place has a line of the text, and a column that counts the clusters before it there. -/
theorem exists_line (h : PointsInto text position) :
    ∃ line before, Text.line? (position.resolve text).line text.toList = some line ∧
      Text.slice? line.offset (position.resolve text).offset text.toList = some before ∧
      (position.resolve text).column = Text.Cluster.count before + 1 := by
  cases h with
  | @line number line found =>
    obtain ⟨before, after, parts, size⟩ := Text.exists_parts_of_line found
    have start : (Position.resolve text (.line number)).offset = line.offset := by
      simp only [resolve, found, Option.map_some, Option.getD_some]
    refine ⟨line, [], found, ?_, rfl⟩
    rw [start]
    exact Text.slice?_eq_some_iff.mpr
      ⟨before, line.content ++ after, by rw [parts, List.append_nil, List.append_assoc], size, rfl⟩
  | offset isCharacter =>
    exact Text.locate_spec (Text.size_toList text ▸ isCharacter.inside) isCharacter.onCharacter

/-- What is marked for the position is a part of the text. -/
theorem exists_marked (h : PointsInto text position) :
    ∃ marked, Text.slice? (Excerpt.spanOf text position).start (Excerpt.spanOf text position).stop
      text.toList = some marked := by
  cases h with
  | line found =>
    obtain ⟨before, after, parts, size⟩ := Text.exists_parts_of_line found
    simp only [Excerpt.spanOf, found, Excerpt.Span.stop]
    exact ⟨_, Text.slice?_eq_some_iff.mpr ⟨before, after, parts, size, rfl⟩⟩
  | offset isCharacter =>
    obtain ⟨before, after, parts, size⟩ := Text.isBoundary_iff.mp isCharacter.onCharacter
    refine ⟨[], Text.slice?_eq_some_iff.mpr ⟨before, after, ?_, size, rfl⟩⟩
    rw [List.append_nil, parts]

/-- A violation there can be drawn. -/
theorem isSome_draw? {file : SourceFile} {v : Violation} (h : PointsInto file.text v.location.position)
    (colored : Bool) : (Excerpt.draw? colored file v).isSome = true := by
  obtain ⟨marked, found⟩ := h.exists_marked
  obtain ⟨ordered, within⟩ := Text.bounds_of_slice? found
  unfold Excerpt.draw?
  dsimp only
  rw [if_neg (Nat.not_lt.mpr (Nat.le_trans ordered within))]
  rfl

end Position.PointsInto

end SwiftStyle
