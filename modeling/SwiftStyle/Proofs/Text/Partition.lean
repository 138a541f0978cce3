import SwiftStyle.Proofs.Text.Segments

/-!
Lines partition their text: the contents of the lines and what ends them, one after the other, are
the whole text. The lines that follow from the starts, each cut out of the text by its range, are
the same.
-/

namespace SwiftStyle.Text

variable {number offset : Nat} {cs body : List Char} {pieces : List (List Char)}

/-- What ends a line, given its content. A carriage return before a newline belongs to the ending,
and only the last line may end without a newline. -/
inductive Ends : (isLast : Bool) → (content ending : List Char) → Prop
  | newline {isLast content} : content.getLast? ≠ some '\r' → Ends isLast content ['\n']
  | returned {isLast content} : Ends isLast content ['\r', '\n']
  | bareReturn {content} : Ends true content ['\r']
  | nothing {content} : content.getLast? ≠ some '\r' → Ends true content []

/-- A line with what ends it. -/
structure EndedLine where
  line : Line
  ending : List Char

/-- All that a line takes of its text. -/
def EndedLine.text (ended : EndedLine) : List Char := ended.line.content ++ ended.ending

/-- Lines that stand one after the other from an offset on, with nothing between them. -/
inductive Stand : Nat → List EndedLine → Prop
  | nil {offset : Nat} : Stand offset []
  | cons {e : EndedLine} {offset : Nat} {later : List EndedLine} :
      e.line.offset = offset → '\n' ∉ e.line.content →
      Ends later.isEmpty e.line.content e.ending → Stand (offset + size e.text) later →
      Stand offset (e :: later)

theorem Stand.spec {front back : List EndedLine} {e : EndedLine}
    (stand : Stand offset (front ++ e :: back)) :
    e.line.offset = offset + size (front.flatMap EndedLine.text) ∧ '\n' ∉ e.line.content ∧
      Ends back.isEmpty e.line.content e.ending := by
  induction front generalizing offset with
  | nil =>
    cases stand with
    | cons starts free ends later => exact ⟨starts, free, ends⟩
  | cons first front ih =>
    cases stand with
    | cons starts free ends later =>
      rw [List.flatMap_cons, size_append, ← Nat.add_assoc]
      exact ih later

theorem notMem_dropReturn (free : '\n' ∉ body) : '\n' ∉ dropReturn body := by
  unfold dropReturn
  split
  · exact fun mem => free (List.dropLast_subset _ mem)
  · exact free

theorem exists_ending_of_newline (body : List Char) :
    ∃ ending, chomp (body ++ ['\n']) ++ ending = body ++ ['\n'] ∧
      ∀ isLast, Ends isLast (chomp (body ++ ['\n'])) ending := by
  rw [chomp_newline]
  rcases dropReturn_cases body with ⟨same, plain⟩ | returned
  · rw [same]
    exact ⟨['\n'], rfl, fun _ => .newline plain⟩
  · refine ⟨['\r', '\n'], ?_, fun _ => .returned⟩
    conv_rhs => rw [← returned]
    simp

theorem exists_ending_of_last (free : '\n' ∉ body) :
    ∃ ending, chomp body ++ ending = body ∧ Ends true (chomp body) ending := by
  rw [chomp_of_notMem free]
  rcases dropReturn_cases body with ⟨same, plain⟩ | returned
  · rw [same]
    exact ⟨[], List.append_nil body, .nothing plain⟩
  · exact ⟨['\r'], returned, .bareReturn⟩

/-- The lines of pieces take all of the pieces: what one line leaves is where the next one
stands. -/
theorem IsCut.exists_ended (cut : IsCut pieces) (number offset : Nat) :
    ∃ ended : List EndedLine, ended.map EndedLine.line = linesFrom number offset pieces ∧
      ended.flatMap EndedLine.text = pieces.flatten ∧ Stand offset ended := by
  induction cut generalizing number offset with
  | @last body free =>
    by_cases opensNone : body = [] ∧ 1 < number
    · obtain ⟨rfl, later⟩ := opensNone
      exact ⟨[], by simp [linesFrom, later], rfl, .nil⟩
    · obtain ⟨ending, whole, ends⟩ := exists_ending_of_last free
      refine ⟨[⟨⟨number, offset, chomp body⟩, ending⟩], ?_, ?_, ?_⟩
      · have opens : ¬(body.isEmpty && [].isEmpty (α := List Char) && 1 < number) := by
          simpa using opensNone
        rw [linesFrom, if_neg opens]
        rfl
      · rw [List.flatMap_singleton, EndedLine.text, whole, List.flatten_singleton]
      · exact .cons rfl (chomp_of_notMem free ▸ notMem_dropReturn free) ends .nil
  | @cons body rest free cut ih =>
    obtain ⟨ending, whole, ends⟩ := exists_ending_of_newline body
    obtain ⟨ended, lines, text, stand⟩ := ih (number + 1) (offset + size (body ++ ['\n']))
    refine ⟨⟨⟨number, offset, chomp (body ++ ['\n'])⟩, ending⟩ :: ended, ?_, ?_, ?_⟩
    · rw [linesFrom_cons_of_ne_nil (.inr cut.ne_nil), List.map_cons, lines]
    · rw [List.flatMap_cons, text, EndedLine.text, whole, List.flatten_cons]
    · refine .cons rfl (chomp_newline body ▸ notMem_dropReturn free) (ends _) ?_
      rw [EndedLine.text, whole]
      exact stand

/-- The lines by their starts: to each number up to the count, what stands in its range. -/
def linesByStarts (cs : List Char) : List Line :=
  (List.range' 1 (countByStarts cs)).filterMap fun number =>
    (lineRange? number cs).bind fun (start, stop) =>
      (slice? start stop cs).map fun content => ⟨number, start, content⟩

theorem map_line?_range' (cs : List Char) :
    (List.range' 1 (lineCount cs)).map (line? · cs) = (lines cs).map some := by
  apply List.ext_getElem (by simp [lineCount])
  intro i _ within
  rw [List.length_map] at within
  rw [List.getElem_map, List.getElem_map, List.getElem_range', Nat.one_mul, Nat.add_comm,
    line?_eq_some_iff, List.getElem?_eq_getElem within]

theorem linesByStarts_eq (cs : List Char) : linesByStarts cs = lines cs := by
  have cutOut (number : Nat) : ((lineRange? number cs).bind fun (start, stop) =>
      (slice? start stop cs).map fun content => Line.mk number start content) =
        line? number cs := by
    rw [lineRange?_eq]
    cases found : line? number cs with
    | none => rfl
    | some line =>
      obtain ⟨first, -⟩ := le_lineCount found
      obtain ⟨i, rfl⟩ := Nat.exists_eq_add_of_le' first
      obtain ⟨-, -, -, -, -, numbered, -⟩ := exists_pieces found
      simp only [Option.map_some, Option.bind_some, slice?_line found, ← numbered]
  have all := congrArg (List.filterMap id) (map_line?_range' cs)
  rw [List.filterMap_map, List.filterMap_map] at all
  simp only [linesByStarts, countByStarts_eq, cutOut]
  exact all.trans (List.filterMap_some)

theorem map_number_lines (cs : List Char) :
    (lines cs).map Line.number = List.range' 1 (lineCount cs) := by
  apply List.ext_getElem (by simp [lineCount])
  intro i within _
  rw [List.length_map] at within
  obtain ⟨-, -, -, -, -, numbered, -⟩ := exists_of_linesFrom (List.getElem?_eq_getElem within)
  rw [List.getElem_map, List.getElem_range', Nat.one_mul]
  exact numbered

theorem lines_ascending (cs : List Char) :
    (lines cs).Pairwise fun line later => line.number < later.number := by
  rw [← List.pairwise_map, map_number_lines]
  exact List.pairwise_lt_range'

/-- The lines of a text are numbered from 1 up to their count, which is at least 1, their contents
have no newlines, and with their endings they are the whole text. A final newline opens no line. -/
theorem lines_partition (cs : List Char) :
    linesByStarts cs = lines cs ∧ countByStarts cs = lineCount cs ∧ 1 ≤ lineCount cs ∧
    (lines cs).map Line.number = List.range' 1 (lineCount cs) ∧
    (∃ ended : List EndedLine, ended.map EndedLine.line = lines cs ∧
      ended.flatMap EndedLine.text = cs ∧
      ∀ front e back, ended = front ++ e :: back →
        e.line.offset = size (front.flatMap EndedLine.text) ∧ '\n' ∉ e.line.content ∧
        Ends back.isEmpty e.line.content e.ending) ∧
    lineCount cs = (if cs.getLast? = some '\n' then cs.count '\n' else cs.count '\n' + 1) ∧
    lines [] = [⟨1, 0, []⟩] ∧
    ∀ number, lineRange? number cs = none ↔ number = 0 ∨ lineCount cs < number := by
  refine ⟨linesByStarts_eq cs, countByStarts_eq cs, one_le_lineCount cs, map_number_lines cs, ?_,
    lineCount_eq cs, rfl, fun number => ?_⟩
  · obtain ⟨ended, same, text, stand⟩ := (isCut_segments cs).exists_ended 1 0
    rw [flatten_segments] at text
    refine ⟨ended, same, text, ?_⟩
    rintro front e back rfl
    obtain ⟨starts, free, ends⟩ := stand.spec
    rw [Nat.zero_add] at starts
    exact ⟨starts, free, ends⟩
  · rw [lineRange?_eq, Option.map_eq_none_iff]
    exact line?_eq_none_iff

end SwiftStyle.Text
