import SwiftStyle.Proofs.Text.Places

/-!
The pieces that a text is cut into, and where they start. Each piece but the last ends with its only
newline, and the last piece is empty only where the text ends at the start of a line. So the starts
alone tell how many lines there are and from where to where each of them goes.
-/

namespace SwiftStyle.Text

/-- Pieces of which each but the last ends with its only newline; the last one has none. -/
inductive IsCut : List (List Char) → Prop
  | last {body} : '\n' ∉ body → IsCut [body]
  | cons {body pieces} : '\n' ∉ body → IsCut pieces → IsCut ((body ++ ['\n']) :: pieces)

variable {number offset i o : Nat} {cs body piece : List Char}
  {pieces front back : List (List Char)} {line : Line}

theorem isCut_segments (cs : List Char) : IsCut (segments cs) := by
  induction cs with
  | nil => exact .last List.not_mem_nil
  | cons c cs ih =>
    simp only [segments]
    generalize segments cs = pieces at ih
    by_cases newline : c = '\n'
    · subst newline
      cases ih with
      | last free => exact .cons List.not_mem_nil (.last free)
      | cons free rest => exact .cons List.not_mem_nil (.cons free rest)
    · have longer {body : List Char} (free : '\n' ∉ body) : '\n' ∉ c :: body :=
        List.not_mem_cons_of_ne_of_not_mem (Ne.symm newline) free
      cases ih with
      | last free =>
        simp only [newline, if_false]
        exact .last (longer free)
      | cons free rest =>
        simp only [newline, if_false]
        exact .cons (longer free) rest

namespace IsCut

theorem ne_nil (cut : IsCut pieces) : pieces ≠ [] := by
  cases cut <;> exact List.cons_ne_nil _ _

/-- A piece somewhere among the others: the last one, or one that ends with a newline. -/
theorem piece_cases (cut : IsCut (front ++ piece :: back)) :
    (back = [] ∧ '\n' ∉ piece) ∨
      ∃ body, back ≠ [] ∧ '\n' ∉ body ∧ piece = body ++ ['\n'] := by
  induction front with
  | nil =>
    cases cut with
    | last free => exact .inl ⟨rfl, free⟩
    | cons free rest => exact .inr ⟨_, rest.ne_nil, free, rfl⟩
  | cons first front ih =>
    generalize later : front ++ piece :: back = pieces at ih cut
    rw [List.cons_append, later] at cut
    cases cut with
    | last => exact absurd later (by simp)
    | cons _ rest => exact ih rest

end IsCut

/-! What is chopped off a piece. -/

/-- A text without one carriage return at its end. -/
def dropReturn (cs : List Char) : List Char :=
  if cs.getLast? = some '\r' then cs.dropLast else cs

theorem dropReturn_cases (cs : List Char) :
    (dropReturn cs = cs ∧ cs.getLast? ≠ some '\r') ∨ dropReturn cs ++ ['\r'] = cs := by
  unfold dropReturn
  split
  · next returned => exact .inr (List.dropLast_append_getLast? _ returned)
  · next plain => exact .inl ⟨rfl, plain⟩

theorem chomp_of_notMem (free : '\n' ∉ body) : chomp body = dropReturn body := by
  have plain : body.getLast? ≠ some '\n' := fun last => free (List.mem_of_getLast? last)
  simp only [chomp, dropReturn, plain, if_false]

theorem chomp_newline (body : List Char) : chomp (body ++ ['\n']) = dropReturn body := by
  simp only [chomp, dropReturn, List.getLast?_concat, List.dropLast_concat, if_true]

theorem size_dropReturn_le (cs : List Char) : size (dropReturn cs) ≤ size cs := by
  rcases dropReturn_cases cs with ⟨same, -⟩ | returned
  · exact Nat.le_of_eq (congrArg size same)
  · conv_rhs => rw [← returned]
    rw [size_append]
    exact Nat.le_add_right _ _

theorem add_size_dropReturn (offset : Nat) (cs : List Char) :
    (if cs.getLast? = some '\r' then offset + size cs - 1 else offset + size cs) =
      offset + size (dropReturn cs) := by
  unfold dropReturn
  split
  · next returned =>
    have whole := congrArg size (List.dropLast_append_getLast? _ returned)
    rw [size_append] at whole
    rw [← whole, ← Nat.add_assoc]
    exact Nat.add_sub_cancel _ 1
  · rfl

theorem size_newline (body : List Char) : size (body ++ ['\n']) = size body + 1 := by
  rw [size_append]
  rfl

/-! Where pieces start. -/

theorem offsetsFrom_append (offset : Nat) (front back : List (List Char)) :
    offsetsFrom offset (front ++ back) =
      offsetsFrom offset front ++ offsetsFrom (offset + size front.flatten) back := by
  induction front generalizing offset with
  | nil => rfl
  | cons piece front ih =>
    rw [List.cons_append, offsetsFrom, offsetsFrom, ih, List.cons_append, List.flatten_cons,
      size_append, Nat.add_assoc]

theorem length_offsetsFrom (offset : Nat) (pieces : List (List Char)) :
    (offsetsFrom offset pieces).length = pieces.length := by
  induction pieces generalizing offset with
  | nil => rfl
  | cons piece pieces ih => rw [offsetsFrom, List.length_cons, List.length_cons, ih]

theorem le_stop_of_mem_offsetsFrom (mem : o ∈ offsetsFrom offset pieces) :
    o ≤ offset + size pieces.flatten := by
  induction pieces generalizing offset with
  | nil => exact absurd mem List.not_mem_nil
  | cons piece pieces ih =>
    rw [List.flatten_cons, size_append, ← Nat.add_assoc]
    rcases List.mem_cons.mp mem with rfl | later
    · exact Nat.le_add_right_of_le (Nat.le_add_right _ _)
    · exact ih later

/-- Whether a text ends where a line starts. -/
def EndsAtStart (cs : List Char) : Prop := cs = [] ∨ cs.getLast? = some '\n'

instance (cs : List Char) : Decidable (EndsAtStart cs) :=
  inferInstanceAs (Decidable (cs = [] ∨ cs.getLast? = some '\n'))

theorem endsAtStart_of_free (free : '\n' ∉ body) : EndsAtStart body ↔ body = [] := by
  constructor
  · rintro (empty | last)
    · exact empty
    · exact absurd (List.mem_of_getLast? last) free
  · exact .inl

theorem getLast?_newline_append (body cs : List Char) :
    (body ++ ['\n'] ++ cs).getLast? = some '\n' ↔ EndsAtStart cs := by
  rw [EndsAtStart, List.getLast?_append]
  cases last : cs.getLast? with
  | none => simp [List.getLast?_eq_none_iff.mp last]
  | some c =>
    have filled : cs ≠ [] := by
      rintro rfl
      cases last
    simp [filled]

theorem endsAtStart_newline_append (body cs : List Char) :
    EndsAtStart (body ++ ['\n'] ++ cs) ↔ EndsAtStart cs := by
  rw [← getLast?_newline_append body cs, EndsAtStart]
  simp

namespace IsCut

theorem length_eq (cut : IsCut pieces) : pieces.length = pieces.flatten.count '\n' + 1 := by
  induction cut with
  | last free => simp [List.count_eq_zero.mpr free]
  | cons free rest ih => simp [ih, List.count_eq_zero.mpr free, Nat.add_comm]

/-- The last start is the end of the text exactly if the text ends where a line starts. -/
theorem getLast?_offsetsFrom (cut : IsCut pieces) (offset : Nat) :
    (offsetsFrom offset pieces).getLast? = some (offset + size pieces.flatten) ↔
      EndsAtStart pieces.flatten := by
  induction cut generalizing offset with
  | @last body free =>
    rw [List.flatten_singleton, endsAtStart_of_free free, ← size_eq_zero_iff]
    simp only [offsetsFrom, List.getLast?_singleton, Option.some.injEq]
    omega
  | @cons body rest free cut ih =>
    obtain ⟨first, others, rfl⟩ := List.exists_cons_of_ne_nil cut.ne_nil
    rw [List.flatten_cons, endsAtStart_newline_append, ← ih (offset + size (body ++ ['\n'])),
      size_append, Nat.add_assoc]
    rfl

theorem length_linesFrom (cut : IsCut pieces) (later : 1 < number) (offset : Nat) :
    (linesFrom number offset pieces).length + (if EndsAtStart pieces.flatten then 1 else 0) =
      pieces.length := by
  induction cut generalizing number offset with
  | @last body free =>
    rw [List.flatten_singleton]
    by_cases empty : body = []
    · simp [linesFrom, empty, later, EndsAtStart]
    · simp [linesFrom, empty, endsAtStart_of_free free]
  | @cons body rest free cut ih =>
    rw [linesFrom_cons_of_ne_nil (.inr cut.ne_nil), List.flatten_cons, List.length_cons,
      List.length_cons, if_congr (endsAtStart_newline_append body rest.flatten) rfl rfl,
      Nat.add_right_comm, ih (Nat.lt_succ_of_lt later)]

end IsCut

theorem lineCount_add (cs : List Char) :
    lineCount cs + (if cs.getLast? = some '\n' then 1 else 0) = (segments cs).length := by
  have whole := flatten_segments cs
  have cut := isCut_segments cs
  rw [lineCount, lines]
  generalize segments cs = pieces at whole cut
  subst whole
  cases cut with
  | @last body free =>
    have plain : body.getLast? ≠ some '\n' := fun last => free (List.mem_of_getLast? last)
    simp [linesFrom, plain]
  | @cons body rest free cut =>
    rw [linesFrom_cons_of_ne_nil (.inr cut.ne_nil), List.flatten_cons, List.length_cons,
      List.length_cons, if_congr (getLast?_newline_append body rest.flatten) rfl rfl,
      Nat.add_right_comm, cut.length_linesFrom (Nat.lt_add_one 1)]

/-- A final newline opens no further line. -/
theorem lineCount_eq (cs : List Char) :
    lineCount cs = if cs.getLast? = some '\n' then cs.count '\n' else cs.count '\n' + 1 := by
  have counted := (isCut_segments cs).length_eq
  rw [flatten_segments, ← lineCount_add] at counted
  split
  · next last =>
    rw [if_pos last] at counted
    exact Nat.succ.inj counted
  · next plain => rwa [if_neg plain] at counted

theorem one_le_lineCount (cs : List Char) : 1 ≤ lineCount cs := by
  rw [lineCount_eq]
  split
  · next last => exact List.count_pos_iff.mpr (List.mem_of_getLast? last)
  · exact Nat.le_add_left _ _

/-! The lines told by their starts. -/

/-- The number of lines: a start at the end of the text opens none, unless it is the only one. -/
def countByStarts (cs : List Char) : Nat :=
  let starts := lineStarts cs
  if starts.getLast? = some (size cs) ∧ 1 < starts.length then starts.length - 1
  else starts.length

theorem countByStarts_eq (cs : List Char) : countByStarts cs = lineCount cs := by
  have cut := isCut_segments cs
  have ends := cut.getLast?_offsetsFrom 0
  have counted := cut.length_eq
  have added := lineCount_add cs
  rw [flatten_segments, Nat.zero_add] at ends
  rw [flatten_segments] at counted
  have opensNone : ((lineStarts cs).getLast? = some (size cs) ∧ 1 < (lineStarts cs).length) ↔
      cs.getLast? = some '\n' := by
    rw [lineStarts, ends, length_offsetsFrom, counted, EndsAtStart]
    constructor
    · rintro ⟨empty | last, several⟩
      · simp [empty] at several
      · exact last
    · intro last
      exact ⟨.inr last, Nat.succ_lt_succ (List.count_pos_iff.mpr (List.mem_of_getLast? last))⟩
  simp only [countByStarts, opensNone]
  rw [lineStarts, length_offsetsFrom, ← added]
  split <;> rfl

/-- The range of a line's content: from its start to just before the next one, or to the end of the
text, but for a carriage return there. -/
def lineRange? (number : Nat) (cs : List Char) : Option (Nat × Nat) :=
  if number = 0 ∨ countByStarts cs < number then none
  else
    (lineStarts cs)[number - 1]?.bind fun start =>
      let stop := ((lineStarts cs)[number]?.map (· - 1)).getD (size cs)
      (slice? start stop cs).map fun body =>
        (start, if body.getLast? = some '\r' then stop - 1 else stop)

theorem line?_eq_none_iff : line? number cs = none ↔ number = 0 ∨ lineCount cs < number := by
  cases number with
  | zero => simp [line?]
  | succ i =>
    simp only [line?, lineCount, Nat.succ_ne_zero, if_false, Nat.add_sub_cancel,
      List.getElem?_eq_none_iff, false_or, Nat.lt_succ_iff]

/-- A line is one of the pieces, and the starts of the others are before and after it. -/
theorem exists_pieces (found : line? (i + 1) cs = some line) :
    ∃ front piece back, segments cs = front ++ piece :: back ∧ front.length = i ∧
      line.number = i + 1 ∧ line.offset = size front.flatten ∧ line.content = chomp piece ∧
      lineStarts cs =
        offsetsFrom 0 front ++ line.offset :: offsetsFrom (line.offset + size piece) back := by
  obtain ⟨front, piece, back, pieces, length, numbered, starts, content⟩ :=
    exists_of_linesFrom (line?_eq_some_iff.mp found)
  refine ⟨front, piece, back, pieces, length, by rw [numbered, Nat.add_comm],
    by rw [starts, Nat.zero_add], content, ?_⟩
  rw [lineStarts, pieces, offsetsFrom_append, offsetsFrom, ← starts]

/-- The content of a line is what stands before its newline, or before the end of the text, without
one carriage return. -/
theorem exists_body (found : line? (i + 1) cs = some line) :
    ∃ body, '\n' ∉ body ∧ line.content = dropReturn body ∧
      slice? line.offset (line.offset + size body) cs = some body ∧
      (lineStarts cs)[i]? = some line.offset ∧
      ((lineStarts cs)[i + 1]?.map (· - 1)).getD (size cs) = line.offset + size body := by
  obtain ⟨front, piece, back, pieces, rfl, -, offset, content, starts⟩ := exists_pieces found
  have cut := isCut_segments cs
  have whole := flatten_segments cs
  rw [pieces] at cut whole
  rw [List.flatten_append, List.flatten_cons] at whole
  have start : (lineStarts cs)[front.length]? = some line.offset := by
    rw [starts, List.getElem?_append_right (Nat.le_of_eq (length_offsetsFrom _ _)),
      length_offsetsFrom, Nat.sub_self]
    rfl
  have next : (lineStarts cs)[front.length + 1]? =
      (offsetsFrom (line.offset + size piece) back)[0]? := by
    rw [starts, List.getElem?_append_right (by rw [length_offsetsFrom]; exact Nat.le_succ _),
      length_offsetsFrom, Nat.add_sub_cancel_left]
    rfl
  rcases cut.piece_cases with ⟨rfl, free⟩ | ⟨body, later, free, rfl⟩
  · refine ⟨piece, free, by rw [content, chomp_of_notMem free], ?_, start, ?_⟩
    · rw [← whole, offset, ← List.append_assoc]
      exact slice?_append _ piece _
    · rw [next, ← whole, offset]
      simp [offsetsFrom]
  · refine ⟨body, free, by rw [content, chomp_newline], ?_, start, ?_⟩
    · rw [← whole, offset, List.append_assoc body, ← List.append_assoc]
      exact slice?_append _ body _
    · obtain ⟨following, others, rfl⟩ := List.exists_cons_of_ne_nil later
      rw [next, offsetsFrom, List.getElem?_cons_zero, Option.map_some, Option.getD_some,
        size_newline, ← Nat.add_assoc, Nat.add_sub_cancel]

theorem slice?_line (found : line? number cs = some line) :
    slice? line.offset line.stop cs = some line.content := by
  obtain ⟨before, after, parts, size⟩ := exists_parts_of_line found
  exact slice?_eq_some_iff.mpr ⟨before, after, parts, size, rfl⟩

/-- The range told by the starts is that of the line. -/
theorem lineRange?_eq (number : Nat) (cs : List Char) :
    lineRange? number cs = (line? number cs).map fun line => (line.offset, line.stop) := by
  unfold lineRange?
  rw [countByStarts_eq]
  cases found : line? number cs with
  | none =>
    rw [if_pos (line?_eq_none_iff.mp found)]
    rfl
  | some line =>
    obtain ⟨first, last⟩ := le_lineCount found
    obtain ⟨i, rfl⟩ := Nat.exists_eq_add_of_le' first
    obtain ⟨body, -, content, between, start, stop⟩ := exists_body found
    rw [if_neg (by omega), Nat.add_sub_cancel, start, Option.bind_some]
    simp only [stop, between, Option.map_some, Line.stop, content, add_size_dropReturn]

end SwiftStyle.Text
