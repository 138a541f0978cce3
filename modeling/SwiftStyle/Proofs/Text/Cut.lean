import SwiftStyle.Text.Utf8

/-!
Texts cut at byte offsets. A part at the front is determined by the bytes it takes, so parts of
different sizes extend each other.
-/

namespace SwiftStyle.Text

theorem size_eq_zero_iff {cs : List Char} : size cs = 0 ↔ cs = [] := by
  cases cs with
  | nil => simp
  | cons c cs =>
    have := c.utf8Size_pos
    simp only [size_cons, reduceCtorEq, iff_false]
    omega

/-- Of two cuts the one that takes more bytes takes all that the other takes, and a gap. -/
theorem exists_gap_of_size_le {before after before' after' : List Char}
    (same : before ++ after = before' ++ after') (sizes : size before ≤ size before') :
    ∃ gap, before' = before ++ gap ∧ after = gap ++ after' := by
  rcases List.append_eq_append_iff.mp same with ⟨gap, hbefore, hafter⟩ | ⟨gap, hbefore, hafter⟩
  · exact ⟨gap, hbefore, hafter⟩
  · have : size gap = 0 := by
      rw [hbefore, size_append] at sizes
      omega
    rw [size_eq_zero_iff] at this
    subst this
    exact ⟨[], by simpa using hbefore.symm, by simpa using hafter.symm⟩

theorem slice?_append (before middle after : List Char) :
    slice? (size before) (size before + size middle) (before ++ middle ++ after) = some middle :=
  slice?_eq_some_iff.mpr ⟨before, after, rfl, rfl, rfl⟩

/-- What follows a part is found from its size to the size of the text. -/
theorem slice?_size_append (before after : List Char) :
    slice? (size before) (size (before ++ after)) (before ++ after) = some after := by
  have found := slice?_append before after []
  rwa [List.append_nil, ← size_append] at found

/-- A part is cut in two at every offset in it that falls between characters. -/
theorem slice?_cut {start middle stop : Nat} {cs part : List Char}
    (found : slice? start stop cs = some part) (hmiddle : isBoundary middle cs = true)
    (first : start ≤ middle) (second : middle ≤ stop) :
    ∃ front back, part = front ++ back ∧ slice? start middle cs = some front ∧
      slice? middle stop cs = some back ∧ start + size front = middle := by
  obtain ⟨before, after, rfl, rfl, rfl⟩ := slice?_eq_some_iff.mp found
  obtain ⟨before', after', cut, rfl⟩ := isBoundary_iff.mp hmiddle
  obtain ⟨front, rfl, rest⟩ := exists_gap_of_size_le ((List.append_assoc _ _ _).symm.trans cut) first
  have sizes : size front ≤ size part := by
    rw [size_append] at second
    omega
  obtain ⟨back, rfl, rfl⟩ := exists_gap_of_size_le rest.symm sizes
  refine ⟨front, back, rfl, ?_, ?_, (size_append _ _).symm⟩
  · rw [size_append, List.append_assoc, List.append_assoc, ← List.append_assoc before]
    exact slice?_append before front (back ++ after)
  · have whole : size before + size (front ++ back) = size (before ++ front) + size back := by
      simp only [size_append, Nat.add_assoc]
    rw [whole, ← List.append_assoc before]
    exact slice?_append (before ++ front) back after

/-- Two parts that meet are one part. -/
theorem slice?_join {start middle stop : Nat} {cs front back : List Char}
    (first : slice? start middle cs = some front) (second : slice? middle stop cs = some back) :
    slice? start stop cs = some (front ++ back) := by
  obtain ⟨before, rest, rfl, rfl, rfl⟩ := slice?_eq_some_iff.mp first
  obtain ⟨before', after, same, meets, rfl⟩ := slice?_eq_some_iff.mp second
  have cut := splitAt?_size_append before' (back ++ after)
  rw [meets, ← size_append, ← List.append_assoc, ← same, splitAt?_size_append] at cut
  obtain ⟨rfl, rfl⟩ := Prod.mk.inj (Option.some.inj cut)
  have whole := slice?_append before (front ++ back) after
  rwa [size_append, ← Nat.add_assoc, ← List.append_assoc, List.append_assoc _ back] at whole

theorem exists_parts {start stop : Nat} {cs : List Char} (ordered : start ≤ stop)
    (hstart : isBoundary start cs = true) (hstop : isBoundary stop cs = true) :
    ∃ before middle after, cs = before ++ middle ++ after ∧ size before = start ∧
      start + size middle = stop := by
  obtain ⟨before, rest, cut, rfl⟩ := isBoundary_iff.mp hstart
  obtain ⟨before', after, cut', rfl⟩ := isBoundary_iff.mp hstop
  obtain ⟨middle, rfl, rfl⟩ := exists_gap_of_size_le (cut.symm.trans cut') ordered
  exact ⟨before, middle, after, by simpa using cut, rfl, by simp⟩

theorem isBoundary_size_append (before after : List Char) :
    isBoundary (size before) (before ++ after) = true :=
  isBoundary_iff.mpr ⟨before, after, rfl, rfl⟩

end SwiftStyle.Text
