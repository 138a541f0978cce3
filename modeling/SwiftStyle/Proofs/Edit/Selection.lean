import Mathlib.Logic.Basic
import SwiftStyle.Edit

/-!
Which edits are applied together. The submissions are ranked: later starts come first, and equal
starts keep the order of submission. Going down the ranking, an edit is dropped exactly if it does
not fit the text or fights one that was kept above it. This settles the choice: no other set of
submissions drops exactly those.
-/

namespace SwiftStyle.Edit

/-- Whether an edit replaces a byte of the text. -/
def Replaces (e : Edit) (byte : Nat) : Prop := e.start ≤ byte ∧ byte < e.stop

/-- Two edits that leave each other alone. -/
structure Apart (a b : Edit) : Prop where
  /-- No byte is replaced by both. -/
  noSharedByte : ∀ byte, ¬(a.Replaces byte ∧ b.Replaces byte)
  /-- The first inserts nothing strictly inside what the second replaces. -/
  notInside : a.start = a.stop → ¬(b.start < a.start ∧ a.start < b.stop)
  /-- The second inserts nothing strictly inside what the first replaces. -/
  notAround : b.start = b.stop → ¬(a.start < b.start ∧ b.start < a.stop)
  /-- They do not insert at the same place. -/
  notSamePlace : a.start = a.stop → b.start = b.stop → a.start ≠ b.start

theorem start_le_stop_of_fits {text : List Char} {e : Edit} (fits : e.fits text = true) :
    e.start ≤ e.stop := by
  simp only [Edit.fits, Bool.and_eq_true, decide_eq_true_eq] at fits
  exact fits.1.1

/-- Edits with their bytes in order fight exactly if they do not leave each other alone. -/
theorem conflicts_eq_false_iff {a b : Edit} (ha : a.start ≤ a.stop) (hb : b.start ≤ b.stop) :
    a.conflicts b = false ↔ a.Apart b := by
  have inserts (e : Edit) (he : e.start ≤ e.stop) : e.isInsertion = decide (e.start = e.stop) := by
    rw [isInsertion, decide_eq_decide]
    omega
  unfold conflicts
  rw [inserts a ha, inserts b hb]
  constructor
  · intro free
    by_cases emptyA : a.start = a.stop <;> by_cases emptyB : b.start = b.stop <;>
      simp only [emptyA, emptyB, decide_true, decide_false, Bool.and_eq_false_iff,
        decide_eq_false_iff_not] at free
    all_goals
      refine ⟨?_, by omega, by omega, by omega⟩
      rintro byte ⟨⟨_, _⟩, _, _⟩
      omega
  · rintro ⟨noSharedByte, notInside, notAround, notSamePlace⟩
    have sharedA := noSharedByte a.start
    have sharedB := noSharedByte b.start
    unfold Replaces at sharedA sharedB
    by_cases emptyA : a.start = a.stop <;> by_cases emptyB : b.start = b.stop <;>
      simp only [emptyA, emptyB, decide_true, decide_false, Bool.and_eq_false_iff,
        decide_eq_false_iff_not]
    all_goals omega

/-! Sorting keeps what it does not have to move. -/

/-- The part of a list that sorting brings before an element is the part that does not follow it. -/
theorem eq_takeWhile_of_mergeSort_cons {α : Type} {le : α → α → Bool} {a : α}
    {first second : List α} (before : ∀ b ∈ first, (!le a b) = true)
    (after : ∀ b ∈ second, le a b = true) :
    first = (first ++ second).takeWhile fun b => !le a b := by
  rw [List.takeWhile_append_of_pos before]
  cases second with
  | nil => simp
  | cons b bs => simp [after b]

theorem mergeSort_filter {α : Type} {le : α → α → Bool}
    (trans : ∀ a b c, le a b → le b c → le a c) (total : ∀ a b, le a b || le b a)
    (keep : α → Bool) (l : List α) :
    (l.filter keep).mergeSort le = (l.mergeSort le).filter keep := by
  induction l with
  | nil => simp
  | cons a l ih =>
    obtain ⟨first, second, sorted, rest, before⟩ := List.mergeSort_cons trans total a l
    by_cases kept : keep a
    · obtain ⟨first', second', sorted', rest', before'⟩ :=
        List.mergeSort_cons trans total a (l.filter keep)
      have after : ∀ b ∈ second, le a b = true := by
        have := List.pairwise_mergeSort trans total (a :: l)
        rw [sorted] at this
        exact (List.pairwise_cons.mp (List.pairwise_append.mp this).2.1).1
      have after' : ∀ b ∈ second', le a b = true := by
        have := List.pairwise_mergeSort trans total (a :: l.filter keep)
        rw [sorted'] at this
        exact (List.pairwise_cons.mp (List.pairwise_append.mp this).2.1).1
      -- both lists are cut where the first element that follows `a` stands
      have whole : first' ++ second' = first.filter keep ++ second.filter keep := by
        rw [← rest', ih, rest, List.filter_append]
      have firsts : first' = first.filter keep := by
        rw [eq_takeWhile_of_mergeSort_cons before' after', whole]
        exact (eq_takeWhile_of_mergeSort_cons
          (fun b hb => before b (List.mem_filter.mp hb).1)
          (fun b hb => after b (List.mem_filter.mp hb).1)).symm
      have seconds : second' = second.filter keep := by
        rw [firsts] at whole
        exact List.append_cancel_left whole
      rw [List.filter_cons_of_pos kept, sorted', sorted, firsts, seconds]
      simp [kept]
    · rw [List.filter_cons_of_neg kept, ih, sorted, rest]
      simp [kept]

/-! The ranking of submissions. -/

/-- An edit with its number in the order of submission. -/
abbrev Submission := Edit × Nat

/-- Whether a submission is considered before another. -/
def Ahead (x y : Submission) : Prop :=
  y.1.start < x.1.start ∨ x.1.start = y.1.start ∧ x.2 < y.2

theorem Ahead.asymm {x y : Submission} (h : Ahead x y) : ¬Ahead y x := by
  unfold Ahead at *
  omega

/-- The submissions in the order in which they are considered. -/
def ranking (edits : List Edit) : List Submission :=
  edits.zipIdx.mergeSort (List.zipIdxLE fun a b => decide (b.start ≤ a.start))

theorem priority_trans (a b c : Edit) (hab : decide (b.start ≤ a.start))
    (hbc : decide (c.start ≤ b.start)) : decide (c.start ≤ a.start) := by
  simp only [decide_eq_true_eq] at *
  omega

theorem priority_total (a b : Edit) :
    (decide (b.start ≤ a.start) || decide (a.start ≤ b.start)) = true := by
  simp only [Bool.or_eq_true, decide_eq_true_eq]
  omega

theorem map_fst_ranking (edits : List Edit) : (ranking edits).map Prod.fst = byPriority edits :=
  List.mergeSort_zipIdx

theorem ranking_perm (edits : List Edit) : (ranking edits).Perm edits.zipIdx :=
  List.mergeSort_perm _ _

@[simp]
theorem mem_ranking {edits : List Edit} {x : Submission} :
    x ∈ ranking edits ↔ x ∈ edits.zipIdx :=
  (ranking_perm edits).mem_iff

theorem ranking_pairwise (edits : List Edit) : (ranking edits).Pairwise Ahead := by
  have sorted := List.pairwise_mergeSort (List.zipIdxLE_trans priority_trans)
    (List.zipIdxLE_total priority_total) edits.zipIdx
  have numbers : ((ranking edits).map Prod.snd).Nodup := by
    rw [((ranking_perm edits).map Prod.snd).nodup_iff, List.zipIdx_map_snd]
    exact List.nodup_range'
  have distinct : (ranking edits).Pairwise fun x y => x.2 ≠ y.2 := List.pairwise_map.mp numbers
  refine (sorted.and distinct).imp ?_
  rintro ⟨a, i⟩ ⟨b, j⟩ ⟨ordered, different⟩
  simp only [List.zipIdxLE, decide_eq_true_eq] at ordered
  unfold Ahead
  grind

/-! The choice that goes down the ranking. -/

/-- What going down some ranked submissions keeps, given those kept above them. -/
theorem exists_chosen (text : List Char) (kept rest : List Submission)
    (ordered : rest.Pairwise Ahead) :
    ∃ chosen : List Submission, chosen.Sublist rest ∧
      acceptFrom text (kept.map Prod.fst) (rest.map Prod.fst)
        = (kept.reverse ++ chosen).map Prod.fst ∧
      ∀ x ∈ rest, x ∈ chosen ↔ x.1.fits text = true ∧
        (∀ y ∈ kept, y.1.conflicts x.1 = false) ∧
        ∀ y ∈ chosen, Ahead y x → y.1.conflicts x.1 = false := by
  induction rest generalizing kept with
  | nil => exact ⟨[], .slnil, by simp [acceptFrom], by simp⟩
  | cons x rest ih =>
    obtain ⟨ahead, ordered⟩ := List.pairwise_cons.mp ordered
    have notAhead : ∀ y ∈ rest, ¬Ahead y x := fun y hy => (ahead y hy).asymm
    have notSelf : x ∉ rest := fun again => notAhead x again (ahead x again)
    have check : (x.1.fits text && !(kept.map Prod.fst).any (conflicts · x.1)) = true ↔
        x.1.fits text = true ∧ ∀ y ∈ kept, y.1.conflicts x.1 = false := by
      simp
    by_cases accept : x.1.fits text = true ∧ ∀ y ∈ kept, y.1.conflicts x.1 = false
    · obtain ⟨chosen, sub, result, spec⟩ := ih (x :: kept) ordered
      refine ⟨x :: chosen, sub.cons_cons x, ?_, ?_⟩
      · rw [List.map_cons, acceptFrom, if_pos (check.mpr accept)]
        simpa using result
      · intro z hz
        rcases List.mem_cons.mp hz with rfl | hz
        · have none : ∀ y ∈ z :: chosen, Ahead y z → y.1.conflicts z.1 = false := by
            intro y hy above
            rcases List.mem_cons.mp hy with rfl | hy
            · exact absurd above above.asymm
            · exact absurd above (notAhead y (sub.subset hy))
          simp only [List.mem_cons, true_or, true_iff]
          exact ⟨accept.1, accept.2, fun y hy => none y (List.mem_cons.mpr hy)⟩
        · have other : z ≠ x := fun same => notSelf (same ▸ hz)
          have above : Ahead x z := ahead z hz
          rw [List.mem_cons, or_iff_right other, spec z hz]
          simp only [List.forall_mem_cons]
          constructor
          · rintro ⟨fits, ⟨first, others⟩, free⟩
            exact ⟨fits, others, fun _ => first, free⟩
          · rintro ⟨fits, others, first, free⟩
            exact ⟨fits, ⟨first above, others⟩, free⟩
    · obtain ⟨chosen, sub, result, spec⟩ := ih kept ordered
      refine ⟨chosen, sub.cons x, ?_, ?_⟩
      · rw [List.map_cons, acceptFrom, if_neg (mt check.mp accept)]
        exact result
      · intro z hz
        rcases List.mem_cons.mp hz with rfl | hz
        · have out : z ∉ chosen := fun hz => notSelf (sub.subset hz)
          simp only [out, false_iff]
          rintro ⟨fits, free, _⟩
          exact accept ⟨fits, free⟩
        · exact spec z hz

/-- Whether a choice of submissions drops exactly those that do not fit the text or fight a chosen
one ahead of them. -/
def SettledByPriority (text : List Char) (edits : List Edit) (chosen : Submission → Prop) : Prop :=
  ∀ x ∈ edits.zipIdx, ¬chosen x ↔
    x.1.fits text = false ∨
      ∃ y ∈ edits.zipIdx, chosen y ∧ Ahead y x ∧ y.1.conflicts x.1 = true

/-- At most one choice is settled by priority: two that agree ahead of a submission agree on it. -/
theorem SettledByPriority.unique {text : List Char} {edits : List Edit}
    {first second : Submission → Prop} (hfirst : SettledByPriority text edits first)
    (hsecond : SettledByPriority text edits second) :
    ∀ x ∈ edits.zipIdx, first x ↔ second x := by
  have agree : ∀ above rest : List Submission, ranking edits = above ++ rest →
      (∀ x ∈ above, first x ↔ second x) → ∀ x ∈ rest, first x ↔ second x := by
    intro above rest
    induction rest generalizing above with
    | nil => simp
    | cons x rest ih =>
      intro split known
      have mine : x ∈ edits.zipIdx := mem_ranking.mp (by simp [split])
      -- whatever is ahead of the submission stands above it in the ranking
      have ahead : ∀ y ∈ edits.zipIdx, Ahead y x → y ∈ above := by
        intro y hy before
        have ranked := ranking_pairwise edits
        rw [split] at ranked
        have place : y ∈ above ++ x :: rest := split ▸ mem_ranking.mpr hy
        rcases List.mem_append.mp place with place | place
        · exact place
        · rcases List.mem_cons.mp place with rfl | place
          · exact absurd before before.asymm
          · have after := (List.pairwise_cons.mp (List.pairwise_append.mp ranked).2.1).1 y place
            exact absurd before after.asymm
      have same : first x ↔ second x := by
        rw [← not_iff_not, hfirst x mine, hsecond x mine]
        refine or_congr_right (exists_congr fun y => and_congr_right fun hy => ?_)
        constructor
        · rintro ⟨chosen, before, fight⟩
          exact ⟨(known y (ahead y hy before)).mp chosen, before, fight⟩
        · rintro ⟨chosen, before, fight⟩
          exact ⟨(known y (ahead y hy before)).mpr chosen, before, fight⟩
      intro z hz
      rcases List.mem_cons.mp hz with rfl | hz
      · exact same
      · refine ih (above ++ [x]) (by simp [split]) ?_ z hz
        intro y hy
        rcases List.mem_append.mp hy with hy | hy
        · exact known y hy
        · exact List.mem_singleton.mp hy ▸ same
  intro x hx
  exact agree [] (ranking edits) rfl (by simp) x (mem_ranking.mpr hx)

/-! What the choice means for a file. -/

theorem accepted_filter_fits (text : List Char) (edits : List Edit) :
    accepted text (edits.filter (fits text)) = accepted text edits := by
  have skip : ∀ kept rest, acceptFrom text kept (rest.filter (fits text))
      = acceptFrom text kept rest := by
    intro kept rest
    induction rest generalizing kept with
    | nil => rfl
    | cons e rest ih =>
      by_cases fit : e.fits text = true
      · rw [List.filter_cons_of_pos fit, acceptFrom, acceptFrom, ih, ih]
      · rw [List.filter_cons_of_neg fit, acceptFrom, ih]
        simp [fit]
  unfold accepted byPriority
  rw [mergeSort_filter priority_trans priority_total, skip]

theorem backToFront_perm (edits : List Edit) : (backToFront edits).Perm edits :=
  List.mergeSort_perm _ _

/-- Without anything to apply the file is written as it is, so that no case is needed. -/
theorem applyEdits_eq (file : SourceFile) (edits : List Edit) :
    file.applyEdits edits =
      (file.write (String.ofList (applyAll file.text.toList
          (backToFront (accepted file.text.toList edits)))),
        (backToFront (accepted file.text.toList edits)).reverse.map (correction file)) := by
  unfold SourceFile.applyEdits
  cases backToFront (accepted file.text.toList edits) with
  | nil => simp [applyAll, SourceFile.write]
  | cons e rest => rfl

theorem applyEdits_nil (file : SourceFile) : file.applyEdits [] = (file, []) := by
  simp [SourceFile.applyEdits, accepted, byPriority, acceptFrom, backToFront]

theorem corrections_perm (file : SourceFile) (edits : List Edit) :
    (file.applyEdits edits).2.Perm
      ((accepted file.text.toList edits).map (correction file)) := by
  rw [applyEdits_eq]
  exact ((List.reverse_perm _).trans (backToFront_perm _)).map (correction file)

theorem SettledByPriority.mem_iff {text : List Char} {edits : List Edit}
    {chosen : Submission → Prop} (settled : SettledByPriority text edits chosen)
    {x : Submission} (hx : x ∈ edits.zipIdx) :
    chosen x ↔ x.1.fits text = true ∧
      ∀ y ∈ edits.zipIdx, chosen y → Ahead y x → y.1.conflicts x.1 = false := by
  rw [← not_iff_not, settled x hx, not_and_or, Bool.not_eq_true]
  simp only [not_forall, Bool.not_eq_false, exists_prop]

/-- What is accepted is a choice of submissions that is settled by priority. -/
theorem exists_settled (text : List Char) (edits : List Edit) :
    ∃ chosen : List Submission, chosen.Sublist (ranking edits) ∧
      accepted text edits = chosen.map Prod.fst ∧
      SettledByPriority text edits fun x => x ∈ chosen := by
  obtain ⟨chosen, sub, result, spec⟩ := exists_chosen text [] (ranking edits)
    (ranking_pairwise edits)
  refine ⟨chosen, sub, by simpa [accepted, map_fst_ranking] using result, ?_⟩
  intro x hx
  have mine := not_congr (spec x (mem_ranking.mpr hx))
  refine mine.trans ?_
  rw [not_and_or, Bool.not_eq_true]
  refine or_congr_right ?_
  constructor
  · intro blocked
    simp only [List.not_mem_nil, false_implies, implies_true, true_and, not_forall,
      Bool.not_eq_false, exists_prop] at blocked
    obtain ⟨y, hy, above, fight⟩ := blocked
    exact ⟨y, mem_ranking.mp (sub.subset hy), hy, above, fight⟩
  · rintro ⟨y, _, hy, above, fight⟩ ⟨_, free⟩
    exact Bool.eq_false_iff.mp (free y hy above) fight

/-- A choice that is settled by priority holds no two edits that fight. -/
theorem SettledByPriority.pairwise_apart {text : List Char} {edits : List Edit}
    {chosen : List Submission} (sub : chosen.Sublist (ranking edits))
    (settled : SettledByPriority text edits fun x => x ∈ chosen) :
    chosen.Pairwise fun x y => x.1.Apart y.1 := by
  refine ((ranking_pairwise edits).sublist sub).imp_of_mem ?_
  intro x y hx hy above
  have submittedx := mem_ranking.mp (sub.subset hx)
  obtain ⟨fitsx, _⟩ := (settled.mem_iff submittedx).mp hx
  obtain ⟨fitsy, free⟩ := (settled.mem_iff (mem_ranking.mp (sub.subset hy))).mp hy
  exact (conflicts_eq_false_iff (start_le_stop_of_fits fitsx) (start_le_stop_of_fits fitsy)).mp
    (free x submittedx hx above)

/-- The choice of edits is settled by priority, and by nothing else: chosen edits leave each other
alone, one that fits is dropped only for a chosen one that it fights, and those that do not fit
have no part in the outcome. -/
theorem applyEdits_settledByPriority (file : SourceFile) (edits : List Edit) :
    ∃ chosen : List Submission,
      chosen.Pairwise Ahead ∧ (∀ x ∈ chosen, x ∈ edits.zipIdx) ∧
      accepted file.text.toList edits = chosen.map Prod.fst ∧
      (file.applyEdits edits).2.Perm (chosen.map fun x => x.1.correction file) ∧
      SettledByPriority file.text.toList edits (fun x => x ∈ chosen) ∧
      (∀ other, SettledByPriority file.text.toList edits other →
        ∀ x ∈ edits.zipIdx, other x ↔ x ∈ chosen) ∧
      chosen.Pairwise (fun x y => x.1.Apart y.1) ∧
      (∀ x ∈ edits.zipIdx, x.1.fits file.text.toList = true → x ∉ chosen →
        ∃ y ∈ chosen, y.1.conflicts x.1 = true) ∧
      ∀ others : List Edit,
        others.filter (fits file.text.toList) = edits.filter (fits file.text.toList) →
          file.applyEdits others = file.applyEdits edits := by
  obtain ⟨chosen, sub, taken, settled⟩ := exists_settled file.text.toList edits
  refine ⟨chosen, (ranking_pairwise edits).sublist sub, fun x hx => mem_ranking.mp (sub.subset hx),
    taken, ?_, settled, fun other hother => hother.unique settled, settled.pairwise_apart sub,
    ?_, ?_⟩
  · have perm := corrections_perm file edits
    rw [taken, List.map_map] at perm
    exact perm
  · intro x hx fit out
    rcases (settled x hx).mp out with unfit | ⟨y, _, hy, _, fight⟩
    · exact absurd fit (Bool.eq_false_iff.mp unfit)
    · exact ⟨y, hy, fight⟩
  · intro others same
    have : accepted file.text.toList others = accepted file.text.toList edits := by
      rw [← accepted_filter_fits, same, accepted_filter_fits]
    rw [applyEdits_eq, applyEdits_eq, this]

end SwiftStyle.Edit
