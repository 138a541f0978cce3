import SwiftStyle.Proofs.Text.Segments
import SwiftStyle.Rule.LineLength

/-!
Lines and offsets converted into each other. The starts up to an offset are counted; between the
start of a line and the end of its content they are those of the line and of the lines before. As
each start but the first follows a newline, they count the newline bytes before the offset.
-/

namespace SwiftStyle.Text

variable {number offset i o : Nat} {cs : List Char} {line : Line}

/-- The bytes of a text in UTF-8. -/
def bytes (cs : List Char) : List UInt8 := cs.flatMap String.utf8EncodeChar

theorem bytes_toList (text : String) : bytes text.toList = text.toUTF8.data.toList := by
  conv_rhs => rw [← String.ofList_toList (s := text)]
  exact List.toList_data_toByteArray.symm

def newlineByte : UInt8 := 10

/-- How many of the bytes of a text before an offset are newlines. -/
def newlinesBefore (offset : Nat) (text : String) : Nat :=
  (text.toUTF8.data.toList.take offset).count newlineByte

theorem newlineByte_eq_ofNat_iff {n : Nat} : newlineByte = UInt8.ofNat n ↔ n % 256 = 10 := by
  rw [eq_comm, UInt8.ofNat_eq_iff_mod_eq_toNat]
  rfl

/-- The bytes of a longer form are all beyond those of ASCII. -/
theorem newlineByte_notMem {c : Char} (other : c ≠ '\n') :
    newlineByte ∉ String.utf8EncodeChar c := by
  have differs : c.val.toNat ≠ 10 := fun same => other (Char.ext (UInt32.toNat_inj.mp same))
  unfold String.utf8EncodeChar
  dsimp only
  split
  · simp only [List.mem_singleton, newlineByte_eq_ofNat_iff]
    omega
  · split
    · simp only [List.mem_cons, List.not_mem_nil, or_false, newlineByte_eq_ofNat_iff]
      omega
    · split <;>
      · simp only [List.mem_cons, List.not_mem_nil, or_false, newlineByte_eq_ofNat_iff]
        omega

theorem count_take_encode_append {c : Char} (other : c ≠ '\n') (n : Nat) (rest : List UInt8) :
    ((String.utf8EncodeChar c ++ rest).take n).count newlineByte =
      (rest.take (n - c.utf8Size)).count newlineByte := by
  have none : ((String.utf8EncodeChar c).take n).count newlineByte = 0 :=
    List.count_eq_zero.mpr fun mem => newlineByte_notMem other (List.mem_of_mem_take mem)
  rw [List.take_append, List.count_append, String.length_utf8EncodeChar, none, Nat.zero_add]

theorem count_take_newline_append (n : Nat) (rest : List UInt8) :
    ((String.utf8EncodeChar '\n' ++ rest).take (n + 1)).count newlineByte =
      (rest.take n).count newlineByte + 1 := by
  have encoded : String.utf8EncodeChar '\n' = [newlineByte] := rfl
  rw [encoded, List.singleton_append, List.take_succ_cons, List.count_cons_self]

/-- Beyond the first one, the starts up to an offset are the newline bytes before it. -/
theorem countP_tail_offsetsFrom (offset o : Nat) (cs : List Char) :
    ((offsetsFrom offset (segments cs)).tail).countP (· ≤ o) =
      ((bytes cs).take (o - offset)).count newlineByte := by
  induction cs generalizing offset with
  | nil => simp [segments, offsetsFrom, bytes]
  | cons c cs ih =>
    have unfolded : bytes (c :: cs) = String.utf8EncodeChar c ++ bytes cs := rfl
    obtain ⟨piece, pieces, cut⟩ := List.exists_cons_of_ne_nil (segments_ne_nil cs)
    rw [cut] at ih
    simp only [segments, cut, unfolded]
    by_cases newline : c = '\n'
    · subst newline
      have opens : (offsetsFrom offset (['\n'] :: piece :: pieces)).tail =
          (offset + 1) :: (offsetsFrom (offset + 1) (piece :: pieces)).tail := rfl
      rw [if_pos rfl, opens, List.countP_cons, ih]
      by_cases before : o ≤ offset
      · have unread : ¬offset + 1 ≤ o := by omega
        simp [Nat.sub_eq_zero_of_le before, Nat.sub_eq_zero_of_le (Nat.le_succ_of_le before),
          unread]
      · obtain ⟨n, rfl⟩ := Nat.exists_eq_add_of_lt (Nat.not_le.mp before)
        have first : offset + n + 1 - (offset + 1) = n := by omega
        have all : offset + n + 1 - offset = n + 1 := by omega
        rw [first, all, count_take_newline_append, if_pos (by simp)]
    · have same : (offsetsFrom offset ((c :: piece) :: pieces)).tail =
          (offsetsFrom (offset + c.utf8Size) (piece :: pieces)).tail := by
        simp only [offsetsFrom, List.tail_cons, size_cons, Nat.add_assoc]
      rw [if_neg newline, same, ih, count_take_encode_append newline, Nat.sub_sub]

theorem countP_lineStarts (o : Nat) (cs : List Char) :
    (lineStarts cs).countP (· ≤ o) = 1 + ((bytes cs).take o).count newlineByte := by
  obtain ⟨piece, pieces, cut⟩ := List.exists_cons_of_ne_nil (segments_ne_nil cs)
  have later := countP_tail_offsetsFrom 0 o cs
  rw [Nat.sub_zero] at later
  rw [lineStarts, ← later, cut, offsetsFrom, List.tail_cons,
    List.countP_cons_of_pos (by simp), Nat.add_comm]

/-- Up to an offset between its start and the end of its content, a line is the last to start. -/
theorem countP_lineStarts_of_line (found : line? (i + 1) cs = some line) (first : line.offset ≤ o)
    (last : o ≤ line.stop) : (lineStarts cs).countP (· ≤ o) = i + 1 := by
  obtain ⟨front, piece, back, pieces, rfl, -, offset, content, starts⟩ := exists_pieces found
  have cut := isCut_segments cs
  rw [pieces] at cut
  have before : (offsetsFrom 0 front).countP (· ≤ o) = front.length := by
    rw [List.countP_eq_length.mpr, length_offsetsFrom]
    intro start mem
    have := le_stop_of_mem_offsetsFrom mem
    simp only [decide_eq_true_eq]
    omega
  have after : (offsetsFrom (line.offset + size piece) back).countP (· ≤ o) = 0 := by
    rcases cut.piece_cases with ⟨rfl, -⟩ | ⟨body, -, -, rfl⟩
    · rfl
    · -- the newline stands between the content and the next start
      have shorter := size_dropReturn_le body
      rw [Line.stop, content, chomp_newline] at last
      apply countP_offsetsFrom_of_lt
      rw [size_newline]
      omega
  rw [starts, List.countP_append, before, List.countP_cons_of_pos (by simpa using first), after]

theorem line_locate (offset : Nat) (cs : List Char) :
    (locate offset cs).1 = (lineStarts cs).countP (· ≤ min offset (size cs)) := by
  unfold locate
  dsimp only
  split <;> rfl

theorem le_size_of_le_stop (found : line? number cs = some line) (last : o ≤ line.stop) :
    o ≤ size cs :=
  Nat.le_trans last (bounds_of_slice? (slice?_line found)).2

theorem line_locate_of_line (found : line? (i + 1) cs = some line) (first : line.offset ≤ o)
    (last : o ≤ line.stop) : (locate o cs).1 = i + 1 := by
  rw [line_locate, Nat.min_eq_left (le_size_of_le_stop found last),
    countP_lineStarts_of_line found first last]

/-- In a line the column of an offset counts what stands before it there. -/
theorem locate_of_slice? {before : List Char} (found : line? (i + 1) cs = some line)
    (last : o ≤ line.stop) (between : slice? line.offset o cs = some before) :
    locate o cs = (i + 1, 1 + Cluster.count before) := by
  obtain ⟨-, -, -, -, start, -⟩ := exists_body found
  have first := (bounds_of_slice? between).1
  simp only [locate, Nat.min_eq_left (le_size_of_le_stop found last),
    countP_lineStarts_of_line found first last, Nat.add_sub_cancel,
    List.getD_eq_getElem?_getD, start, Option.getD_some, between, Nat.add_comm]

theorem slice?_self {before after : List Char} (cut : cs = before ++ after) :
    slice? (size before) (size before) cs = some [] :=
  slice?_eq_some_iff.mpr ⟨before, after, by rw [cut, List.append_nil], rfl, rfl⟩

/-- Each line starts at its first column, holds every offset up to the end of its content, and ends
at the column after the clusters by which the rule for line lengths measures it. Every offset is in
the line after as many newline bytes as are before it. -/
theorem lines_and_offsets_convert (text : String) :
    (∀ number, 1 ≤ number → number ≤ lineCount text.toList →
      ∃ line n, line? number text.toList = some line ∧
        lineRange? number text.toList = some (line.offset, line.stop) ∧
        locate line.offset text.toList = (number, 1) ∧
        Position.resolve text (.line number) = ⟨number, 1, line.offset⟩ ∧
        (∀ o, line.offset ≤ o → o ≤ line.stop → (locate o text.toList).1 = number) ∧
        locate line.stop text.toList = (number, 1 + n) ∧
        ∀ thresholds quoted (file : SourceFile),
          LineLength.violation? thresholds quoted file line =
            (Threshold.escalate thresholds fun limit => limit < n).map fun passed =>
              ⟨LineLength.info.reporter, passed.severity, file.located (.line number),
                LineLength.reason quoted n⟩) ∧
    ∀ offset, (locate offset text.toList).1 =
      1 + newlinesBefore (min offset text.utf8ByteSize) text := by
  constructor
  · intro number one within
    obtain ⟨line, found⟩ : ∃ line, line? number text.toList = some line := by
      apply Option.ne_none_iff_exists'.mp
      intro none
      have := line?_eq_none_iff.mp none
      omega
    obtain ⟨i, rfl⟩ := Nat.exists_eq_add_of_le' one
    obtain ⟨before, after, parts, offset⟩ := exists_parts_of_line found
    rw [List.append_assoc] at parts
    have start := slice?_self parts
    rw [offset] at start
    have startsBefore : line.offset ≤ line.stop := Nat.le_add_right _ _
    refine ⟨line, Cluster.count line.content, found, ?_, locate_of_slice? found startsBefore start,
      ?_, fun o first last => line_locate_of_line found first last,
      locate_of_slice? found (Nat.le_refl _) (slice?_line found), ?_⟩
    · rw [lineRange?_eq, found, Option.map_some]
    · simp only [Position.resolve, found, Option.map_some, Option.getD_some]
    · obtain ⟨-, -, -, -, -, numbered, -⟩ := exists_pieces found
      intro thresholds quoted file
      rw [← numbered]
      rfl
  · intro offset
    rw [line_locate, countP_lineStarts, newlinesBefore, ← bytes_toList, size_toList]

theorem lines_and_offsets_convert_accented :
    1 ≤ 2 ∧ 2 ≤ lineCount "é\r\nab\r".toList ∧
      ∃ line n, line? 2 "é\r\nab\r".toList = some line ∧ line.offset = 4 ∧ line.stop = 6 ∧
        locate 4 "é\r\nab\r".toList = (2, 1) ∧ locate 6 "é\r\nab\r".toList = (2, 1 + n) ∧
        n = 2 := by
  have one : 1 ≤ 2 := by decide
  have within : 2 ≤ lineCount "é\r\nab\r".toList := by decide
  obtain ⟨line, n, found, -, start, -, -, stop, -⟩ :=
    (lines_and_offsets_convert "é\r\nab\r").1 2 one within
  have second : line? 2 "é\r\nab\r".toList = some ⟨2, 4, ['a', 'b']⟩ := by decide
  obtain rfl : line = ⟨2, 4, ['a', 'b']⟩ := Option.some.inj (found.symm.trans second)
  have located : locate 6 "é\r\nab\r".toList = (2, 1 + 2) := by decide +kernel
  have counted : 1 + n = 1 + 2 := congrArg Prod.snd (stop.symm.trans located)
  exact ⟨one, within, _, n, found, rfl, rfl, start, stop, Nat.add_left_cancel counted⟩

end SwiftStyle.Text
