import SwiftStyle.Proofs.Edit.Selection
import SwiftStyle.Proofs.Text.Cut

/-!
What a text becomes when edits are applied. Applying the accepted edits from back to front gives the
same text as weaving them in at once: the gaps between their bytes and their replacements in turn.
The invariant of the loop is that the text in front of the edits applied so far is untouched.
-/

namespace SwiftStyle.Edit

/-- The text from an offset on with the bytes of edits replaced all at once: gaps of the text and
replacements in turn. None if the edits do not follow each other on characters of the text. -/
def woven? (text : List Char) (offset : Nat) : List Edit → Option (List Char)
  | [] => Text.slice? offset (Text.size text) text
  | e :: edits => do
    let gap ← Text.slice? offset e.start text
    let rest ← woven? text e.stop edits
    return gap ++ e.replacement.toList ++ rest

/-- Whether an edit comes before another: by where they start, then by where they stop. -/
def Before (a b : Edit) : Prop := a.start < b.start ∨ a.start = b.start ∧ a.stop < b.stop

theorem Before.asymm {a b : Edit} (h : a.Before b) : ¬b.Before a := by
  unfold Before at *
  omega

/-- Edits that stand in a text one after the other. -/
structure InOrder (text : List Char) (edits : List Edit) : Prop where
  fits : ∀ e ∈ edits, e.fits text = true
  disjoint : edits.Pairwise fun a b => a.stop ≤ b.start

theorem InOrder.tail {text : List Char} {e : Edit} {edits : List Edit}
    (h : InOrder text (e :: edits)) : InOrder text edits where
  fits := fun a ha => h.fits a (List.mem_cons_of_mem e ha)
  disjoint := h.disjoint.of_cons

theorem InOrder.drop {text : List Char} {first second : List Edit}
    (h : InOrder text (first ++ second)) : InOrder text second where
  fits := fun a ha => h.fits a (List.mem_append_right first ha)
  disjoint := (List.pairwise_append.mp h.disjoint).2.1

theorem fits_iff {text : List Char} {e : Edit} :
    e.fits text = true ↔ ∃ before middle after, text = before ++ middle ++ after ∧
      Text.size before = e.start ∧ e.start + Text.size middle = e.stop := by
  simp only [Edit.fits, Bool.and_eq_true, decide_eq_true_eq]
  constructor
  · rintro ⟨⟨ordered, hstart⟩, hstop⟩
    exact Text.exists_parts ordered hstart hstop
  · rintro ⟨before, middle, after, rfl, hstart, hstop⟩
    refine ⟨⟨by omega, ?_⟩, ?_⟩
    · rw [← hstart, List.append_assoc]
      exact Text.isBoundary_size_append _ _
    · rw [← hstop, ← hstart, ← Text.size_append]
      exact Text.isBoundary_size_append _ _

theorem applyTo_parts {e : Edit} {before middle : List Char} (after : List Char)
    (hstart : Text.size before = e.start) (hstop : e.start + Text.size middle = e.stop) :
    applyTo (before ++ middle ++ after) e = before ++ e.replacement.toList ++ after := by
  unfold applyTo
  rw [Text.splice?_eq_some_iff.mpr ⟨before, middle, after, rfl, hstart, hstop, rfl⟩]
  rfl

theorem applyAll_reverse_cons (text : List Char) (e : Edit) (edits : List Edit) :
    applyAll text (e :: edits).reverse = applyTo (applyAll text edits.reverse) e := by
  simp [applyAll]

/-- Applying edits from back to front leaves what stands before them and weaves them into the
rest. -/
theorem InOrder.applyAll_reverse {text : List Char} {edits : List Edit} (h : InOrder text edits)
    (before rest : List Char) (cut : text = before ++ rest)
    (later : ∀ e ∈ edits, Text.size before ≤ e.start) :
    ∃ woven, woven? text (Text.size before) edits = some woven ∧
      applyAll text edits.reverse = before ++ woven := by
  induction edits generalizing before rest with
  | nil => exact ⟨rest, by rw [cut]; exact Text.slice?_size_append _ _, cut⟩
  | cons e edits ih =>
    obtain ⟨head, middle, tail, parts, hstart, hstop⟩ := fits_iff.mp (h.fits e (by simp))
    have follow := (List.pairwise_cons.mp h.disjoint).1
    obtain ⟨woven, hwoven, happly⟩ := ih h.tail (head ++ middle) tail parts (by
      intro a ha
      rw [Text.size_append, hstart, hstop]
      exact follow a ha)
    have same : before ++ rest = head ++ (middle ++ tail) := by
      rw [← cut, parts, List.append_assoc]
    obtain ⟨gap, rfl, hrest⟩ := Text.exists_gap_of_size_le same (by
      rw [hstart]
      exact later e (by simp))
    have hgap : Text.slice? (Text.size before) e.start text = some gap :=
      Text.slice?_eq_some_iff.mpr ⟨before, middle ++ tail, by simp [parts], rfl, by
        rw [← hstart, Text.size_append]⟩
    have hstop' : Text.size ((before ++ gap) ++ middle) = e.stop := by
      rw [Text.size_append, hstart, hstop]
    rw [hstop'] at hwoven
    refine ⟨gap ++ e.replacement.toList ++ woven, by simp [woven?, hgap, hwoven], ?_⟩
    rw [applyAll_reverse_cons, happly, applyTo_parts woven hstart hstop]
    simp

/-- The edit in front of those applied so far still fits. -/
theorem InOrder.fits_applyAll {text : List Char} {e : Edit} {edits : List Edit}
    (h : InOrder text (e :: edits)) : e.fits (applyAll text edits.reverse) = true := by
  obtain ⟨before, middle, after, parts, hstart, hstop⟩ := fits_iff.mp (h.fits e (by simp))
  have follow := (List.pairwise_cons.mp h.disjoint).1
  obtain ⟨woven, _, happly⟩ := h.tail.applyAll_reverse (before ++ middle) after parts (by
    intro a ha
    rw [Text.size_append, hstart, hstop]
    exact follow a ha)
  exact fits_iff.mpr ⟨before, middle, woven, happly, hstart, hstop⟩

/-! The accepted edits stand in the text one after the other. -/

theorem Apart.stop_le_start {a b : Edit} (apart : a.Apart b) (ha : a.start ≤ a.stop)
    (hb : b.start ≤ b.stop) (ordered : a.start < b.start ∨ a.start = b.start ∧ a.stop ≤ b.stop) :
    a.stop ≤ b.start := by
  have shared := apart.noSharedByte b.start
  have around := apart.notAround
  have place := apart.notSamePlace
  unfold Replaces at shared
  omega

theorem Apart.before {a b : Edit} (apart : a.Apart b) (ha : a.start ≤ a.stop)
    (hb : b.start ≤ b.stop) (ordered : a.start < b.start ∨ a.start = b.start ∧ a.stop ≤ b.stop) :
    a.Before b := by
  have follow := apart.stop_le_start ha hb ordered
  have place := apart.notSamePlace
  unfold Before
  omega

theorem accepted_spec (text : List Char) (edits : List Edit) :
    (∀ e ∈ accepted text edits, e.fits text = true) ∧ (accepted text edits).Pairwise Apart := by
  obtain ⟨chosen, sub, taken, settled⟩ := exists_settled text edits
  rw [taken]
  constructor
  · intro e he
    obtain ⟨x, hx, rfl⟩ := List.mem_map.mp he
    exact ((settled.mem_iff (mem_ranking.mp (sub.subset hx))).mp hx).1
  · exact List.pairwise_map.mpr (settled.pairwise_apart sub)

theorem Apart.symm {a b : Edit} (h : a.Apart b) : b.Apart a where
  noSharedByte := fun byte shared => h.noSharedByte byte shared.symm
  notInside := h.notAround
  notAround := h.notInside
  notSamePlace := fun hb ha same => h.notSamePlace ha hb same.symm

/-- The applied edits in the order of the text. -/
def applied (text : List Char) (edits : List Edit) : List Edit :=
  (backToFront (accepted text edits)).reverse

theorem applied_perm (text : List Char) (edits : List Edit) :
    (applied text edits).Perm (accepted text edits) :=
  (List.reverse_perm _).trans (backToFront_perm _)

theorem applied_sorted (text : List Char) (edits : List Edit) :
    (applied text edits).Pairwise fun a b =>
      a.start < b.start ∨ a.start = b.start ∧ a.stop ≤ b.stop := by
  refine List.pairwise_reverse.mpr ?_
  refine (List.pairwise_mergeSort ?_ ?_ (accepted text edits)).imp ?_
  · intro a b c hab hbc
    simp only [Bool.or_eq_true, Bool.and_eq_true, decide_eq_true_eq, beq_iff_eq] at *
    omega
  · intro a b
    simp only [Bool.or_eq_true, Bool.and_eq_true, decide_eq_true_eq, beq_iff_eq]
    omega
  · intro a b ordered
    simp only [Bool.or_eq_true, Bool.and_eq_true, decide_eq_true_eq, beq_iff_eq] at ordered
    omega

theorem applied_apart (text : List Char) (edits : List Edit) :
    (applied text edits).Pairwise Apart :=
  (accepted_spec text edits).2.perm (applied_perm text edits).symm Apart.symm

theorem applied_fits {text : List Char} {edits : List Edit} {e : Edit}
    (he : e ∈ applied text edits) : e.fits text = true :=
  (accepted_spec text edits).1 e ((applied_perm text edits).mem_iff.mp he)

theorem applied_inOrder (text : List Char) (edits : List Edit) :
    InOrder text (applied text edits) where
  fits := fun _ he => applied_fits he
  disjoint := by
    refine ((applied_sorted text edits).and (applied_apart text edits)).imp_of_mem ?_
    rintro a b ha hb ⟨ordered, apart⟩
    exact apart.stop_le_start (start_le_stop_of_fits (applied_fits ha))
      (start_le_stop_of_fits (applied_fits hb)) ordered

theorem applied_before (text : List Char) (edits : List Edit) :
    (applied text edits).Pairwise Before := by
  refine ((applied_sorted text edits).and (applied_apart text edits)).imp_of_mem ?_
  rintro a b ha hb ⟨ordered, apart⟩
  exact apart.before (start_le_stop_of_fits (applied_fits ha))
    (start_le_stop_of_fits (applied_fits hb)) ordered

theorem pair_sublist_of_before {edits : List Edit} (sorted : edits.Pairwise Before) {a b : Edit}
    (ha : a ∈ edits) (hb : b ∈ edits) (h : a.Before b) : [a, b].Sublist edits := by
  obtain ⟨front, back, rfl⟩ := List.append_of_mem ha
  obtain ⟨_, later, across⟩ := List.pairwise_append.mp sorted
  rcases List.mem_append.mp hb with hb | hb
  · exact absurd h (across b hb a (by simp)).asymm
  · rcases List.mem_cons.mp hb with rfl | hb
    · exact absurd h h.asymm
    · exact List.sublist_append_of_sublist_right ((List.singleton_sublist.mpr hb).cons_cons a)

/-! Edits that leave each other alone are all applied. -/

theorem acceptFrom_of_free {text : List Char} {kept rest : List Edit}
    (fits : ∀ e ∈ rest, e.fits text = true)
    (above : ∀ k ∈ kept, ∀ e ∈ rest, k.conflicts e = false)
    (free : rest.Pairwise fun a b => a.conflicts b = false) :
    acceptFrom text kept rest = kept.reverse ++ rest := by
  induction rest generalizing kept with
  | nil => simp [acceptFrom]
  | cons e rest ih =>
    obtain ⟨first, free⟩ := List.pairwise_cons.mp free
    have check : (e.fits text && !kept.any (conflicts · e)) = true := by
      simpa [fits e (by simp)] using fun k hk => above k hk e (by simp)
    rw [acceptFrom, if_pos check, ih (fun a ha => fits a (List.mem_cons_of_mem e ha)) ?_ free]
    · simp
    · intro k hk a ha
      rcases List.mem_cons.mp hk with rfl | hk
      · exact first a ha
      · exact above k hk a (List.mem_cons_of_mem e ha)

theorem accepted_perm_of_apart {text : List Char} {edits : List Edit}
    (fits : ∀ e ∈ edits, e.fits text = true) (apart : edits.Pairwise Apart) :
    (accepted text edits).Perm edits := by
  have perm : (byPriority edits).Perm edits := List.mergeSort_perm _ _
  have fits' : ∀ e ∈ byPriority edits, e.fits text = true :=
    fun e he => fits e (perm.mem_iff.mp he)
  have free : (byPriority edits).Pairwise fun a b => a.conflicts b = false := by
    refine (apart.perm perm.symm Apart.symm).imp_of_mem ?_
    intro a b ha hb apart
    exact (conflicts_eq_false_iff (start_le_stop_of_fits (fits' a ha))
      (start_le_stop_of_fits (fits' b hb))).mpr apart
  rw [accepted, acceptFrom_of_free fits' (by simp) free]
  exact perm

theorem applied_perm_of_apart {text : List Char} {edits : List Edit}
    (fits : ∀ e ∈ edits, e.fits text = true) (apart : edits.Pairwise Apart) :
    (applied text edits).Perm edits :=
  (applied_perm text edits).trans (accepted_perm_of_apart fits apart)

theorem toList_applyEdits (file : SourceFile) (edits : List Edit) :
    (file.applyEdits edits).1.text.toList =
      applyAll file.text.toList (applied file.text.toList edits).reverse := by
  rw [applyEdits_eq, applied, List.reverse_reverse]
  simp [SourceFile.write]

/-- The text after edits is woven from the gaps and the replacements of the accepted ones. -/
theorem woven?_applied (file : SourceFile) (edits : List Edit) :
    woven? file.text.toList 0 (applied file.text.toList edits) =
      some (file.applyEdits edits).1.text.toList := by
  obtain ⟨woven, hwoven, happly⟩ := (applied_inOrder file.text.toList edits).applyAll_reverse
    [] file.text.toList rfl (by simp)
  rw [toList_applyEdits, happly]
  exact hwoven

/-- Applying edits weaves the accepted ones, in the order of the text, into the text as it was: all
bytes around them stay in their place and each is replaced once. On the way every edit fits the
text it is applied to, and the corrections are those of the accepted edits in the same order. -/
theorem applyEdits_weaves (file : SourceFile) (edits : List Edit) :
    ∃ inOrder : List Edit,
      inOrder.Perm (accepted file.text.toList edits) ∧
      inOrder.Pairwise Before ∧
      woven? file.text.toList 0 inOrder = some (file.applyEdits edits).1.text.toList ∧
      (∀ i ∈ inOrder, ∀ r ∈ inOrder, i.start = i.stop → r.start < r.stop →
        (i.start = r.start → [i, r].Sublist inOrder) ∧
        (i.start = r.stop → [r, i].Sublist inOrder)) ∧
      backToFront (accepted file.text.toList edits) = inOrder.reverse ∧
      (∀ done e pending, inOrder.reverse = done ++ e :: pending →
        e.fits (applyAll file.text.toList done) = true) ∧
      (file.applyEdits edits).2 =
        inOrder.map (fun e => ⟨e.rule, ⟨file.path, .offset e.start⟩⟩) ∧
      (inOrder = [] → file.applyEdits edits = (file, [])) := by
  refine ⟨applied file.text.toList edits, applied_perm _ _, applied_before _ _,
    woven?_applied file edits, ?_, by simp [applied], ?_, ?_, ?_⟩
  · intro i hi r hr inserts replaces
    refine ⟨fun same => ?_, fun same => ?_⟩
    · exact pair_sublist_of_before (applied_before _ _) hi hr (.inr ⟨same, by omega⟩)
    · exact pair_sublist_of_before (applied_before _ _) hr hi (.inl (by omega))
  · intro done e pending split
    have order : applied file.text.toList edits = pending.reverse ++ e :: done.reverse := by
      rw [← List.reverse_reverse (applied file.text.toList edits), split]
      simp
    have rest := applied_inOrder file.text.toList edits
    rw [order] at rest
    simpa using rest.drop.fits_applyAll
  · rw [applyEdits_eq]
    rfl
  · intro none
    rw [applyEdits_eq, ← applied, ← List.reverse_reverse (backToFront _), ← applied, none]
    simp [SourceFile.write, applyAll]

end SwiftStyle.Edit
