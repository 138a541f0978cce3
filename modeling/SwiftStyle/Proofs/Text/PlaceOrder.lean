import Mathlib.Data.Prod.Lex
import SwiftStyle.Proofs.Text.Places

/-!
Places in the order of the text. A later offset is in no earlier line, since it is behind at least
as many starts of lines. In one line it has more of the line before it, and the front of a text
never has more clusters than the whole.
-/

namespace SwiftStyle.Text

variable {offset o a b : Nat} {cs xs ys : List Char} {pieces : List (List Char)}

namespace Cluster

theorem count_le_of_prefix (part : xs <+: ys) : count xs ≤ count ys := by
  obtain ⟨rest, rfl⟩ := part
  rw [count_append]
  exact Nat.le_add_right _ _

end Cluster

theorem prefix_of_slice? {start : Nat} (first : slice? start a cs = some xs)
    (second : slice? start b cs = some ys) (ordered : a ≤ b) : xs <+: ys := by
  obtain ⟨before, after, rfl, rfl, rfl⟩ := slice?_eq_some_iff.mp first
  rw [← size_append] at first ordered
  have onCharacter := isBoundary_size_append (before ++ xs) after
  obtain ⟨front, back, rfl, found, -⟩ :=
    slice?_cut second onCharacter (bounds_of_slice? first).1 ordered
  rw [first] at found
  rw [Option.some.inj found]
  exact List.prefix_append _ _

/-- The last of the pieces to start up to an offset. -/
theorem exists_last_start (filled : pieces ≠ []) (first : offset ≤ o) :
    ∃ front back, pieces = front ++ back ∧
      (offsetsFrom offset pieces).countP (· ≤ o) = front.length + 1 ∧
      (offsetsFrom offset pieces)[front.length]? = some (offset + size front.flatten) ∧
      offset + size front.flatten ≤ o := by
  induction pieces generalizing offset with
  | nil => exact absurd rfl filled
  | cons piece pieces ih =>
    rw [offsetsFrom, List.countP_cons_of_pos (by simpa using first)]
    by_cases more : pieces ≠ [] ∧ offset + size piece ≤ o
    · obtain ⟨front, back, rfl, counted, start, before⟩ := ih more.1 more.2
      refine ⟨piece :: front, back, rfl, by rw [counted, List.length_cons], ?_, ?_⟩
      · rw [List.length_cons, List.getElem?_cons_succ, start, List.flatten_cons, size_append,
          Nat.add_assoc]
      · rwa [List.flatten_cons, size_append, ← Nat.add_assoc]
    · have none : (offsetsFrom (offset + size piece) pieces).countP (· ≤ o) = 0 := by
        cases pieces with
        | nil => rfl
        | cons next pieces =>
          apply countP_offsetsFrom_of_lt
          exact Nat.not_le.mp fun starts => more ⟨List.cons_ne_nil _ _, starts⟩
      exact ⟨[], piece :: pieces, rfl, by rw [none]; rfl, rfl, first⟩

/-- The column of a character counts the clusters between the last start of a line and it. -/
theorem exists_locate (onCharacter : isBoundary o cs = true) :
    ∃ i before, (lineStarts cs).countP (· ≤ o) = i + 1 ∧
      slice? ((lineStarts cs).getD i 0) o cs = some before ∧
      locate o cs = (i + 1, Cluster.count before + 1) := by
  obtain ⟨front, back, pieces, counted, start, first⟩ :=
    exists_last_start (segments_ne_nil cs) (Nat.zero_le o)
  rw [Nat.zero_add] at start first
  have whole : cs = front.flatten ++ back.flatten := by
    rw [← List.flatten_append, ← pieces, flatten_segments]
  have startsAt : isBoundary (size front.flatten) cs = true := by
    rw [whole]
    exact isBoundary_size_append _ _
  obtain ⟨skipped, before, after, cut, size, stop⟩ := exists_parts first startsAt onCharacter
  have sliced : slice? ((lineStarts cs).getD front.length 0) o cs = some before := by
    rw [lineStarts, List.getD_eq_getElem?_getD, start]
    exact slice?_eq_some_iff.mpr ⟨skipped, after, cut, size, stop⟩
  refine ⟨front.length, before, counted, sliced, ?_⟩
  have counts : (lineStarts cs).countP (· ≤ o) = front.length + 1 := counted
  simp only [locate, Nat.min_eq_left (le_size_of_isBoundary onCharacter), counts,
    Nat.add_sub_cancel, sliced]

/-- Whether an offset is that of a character, or that of the end or past it. -/
def IsPlace (offset : Nat) (cs : List Char) : Prop :=
  isBoundary offset cs = true ∨ size cs ≤ offset

instance (offset : Nat) (cs : List Char) : Decidable (IsPlace offset cs) :=
  inferInstanceAs (Decidable (_ ∨ _))

theorem IsPlace.isBoundary_min (h : IsPlace o cs) : isBoundary (min o (size cs)) cs = true := by
  rcases h with onCharacter | past
  · rwa [Nat.min_eq_left (le_size_of_isBoundary onCharacter)]
  · rw [Nat.min_eq_right past]
    exact isBoundary_iff.mpr ⟨cs, [], (List.append_nil cs).symm, rfl⟩

theorem locate_min (offset : Nat) (cs : List Char) :
    locate (min offset (size cs)) cs = locate offset cs := by
  simp only [locate, Nat.min_assoc, Nat.min_self]

theorem locate_mono_of_isBoundary (ordered : a ≤ b) (onA : isBoundary a cs = true)
    (onB : isBoundary b cs = true) : toLex (locate a cs) ≤ toLex (locate b cs) := by
  obtain ⟨i, before, countedA, slicedA, atA⟩ := exists_locate onA
  obtain ⟨j, before', countedB, slicedB, atB⟩ := exists_locate onB
  have lines : i ≤ j := by
    have more : (lineStarts cs).countP (· ≤ a) ≤ (lineStarts cs).countP (· ≤ b) := by
      apply List.countP_mono_left
      intro start _ upTo
      rw [decide_eq_true_eq] at upTo ⊢
      exact Nat.le_trans upTo ordered
    omega
  rw [atA, atB, Prod.Lex.toLex_le_toLex]
  rcases Nat.lt_or_eq_of_le lines with earlier | rfl
  · exact .inl (Nat.succ_lt_succ earlier)
  · have columns := Cluster.count_le_of_prefix (prefix_of_slice? slicedA slicedB ordered)
    exact .inr ⟨rfl, Nat.succ_le_succ columns⟩

/-- A later offset has no earlier line, and in one line no smaller column. -/
theorem locate_mono (ordered : a ≤ b) (placeA : IsPlace a cs) (placeB : IsPlace b cs) :
    toLex (locate a cs) ≤ toLex (locate b cs) := by
  rw [← locate_min a, ← locate_min b]
  apply locate_mono_of_isBoundary _ placeA.isBoundary_min placeB.isBoundary_min
  omega

example : IsPlace 2 "éa".toList ∧ IsPlace 7 "éa".toList ∧ ¬IsPlace 1 "éa".toList := by decide

end SwiftStyle.Text
