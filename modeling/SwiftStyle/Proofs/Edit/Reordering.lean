import SwiftStyle.Proofs.Edit.Weaving

/-!
Edits that are submitted in another order. Going down the ranking, two neighbours that do not
conflict can change places without a change of what is accepted, so only the order of conflicting
edits counts. Sorting settles that order between different starts. What is left to the submission is
the order of edits that fight over one start.
-/

namespace SwiftStyle.Edit

/-- The occurrences of two edits in a list, in their order. -/
def occurrences (a b : Edit) (edits : List Edit) : List Edit := edits.filter fun e => e = a ∨ e = b

/-- Two edits that fit the text, start together and conflict. -/
structure FightAtStart (text : List Char) (a b : Edit) : Prop where
  first : a.fits text = true
  second : b.fits text = true
  sameStart : a.start = b.start
  conflict : a.conflicts b = true

instance (text : List Char) (a b : Edit) : Decidable (FightAtStart text a b) :=
  decidable_of_iff (a.fits text = true ∧ b.fits text = true ∧ a.start = b.start ∧
      a.conflicts b = true)
    ⟨fun h => ⟨h.1, h.2.1, h.2.2.1, h.2.2.2⟩, fun h => ⟨h.first, h.second, h.sameStart, h.conflict⟩⟩

theorem conflicts_comm (a b : Edit) : a.conflicts b = b.conflicts a := by
  unfold conflicts
  cases a.isInsertion <;> cases b.isInsertion
  · exact Bool.and_comm _ _
  · rfl
  · rfl
  · exact decide_eq_decide.mpr eq_comm

@[simp]
theorem conflicts_self (a : Edit) : a.conflicts a = true := by
  unfold conflicts
  cases inserts : a.isInsertion with
  | true => exact decide_eq_true rfl
  | false => simpa [isInsertion] using inserts

theorem conflicts_of_eq_or_eq {a b x y : Edit} (conflict : a.conflicts b = true)
    (hx : x = a ∨ x = b) (hy : y = a ∨ y = b) : x.conflicts y = true := by
  rcases hx with rfl | rfl <;> rcases hy with rfl | rfl
  · exact conflicts_self _
  · exact conflict
  · rw [conflicts_comm]
    exact conflict
  · exact conflicts_self _

section

variable {text : List Char} {kept kept' front back first second edits others : List Edit}
  {a b e x y : Edit}

@[simp]
theorem mem_occurrences : e ∈ occurrences a b edits ↔ e ∈ edits ∧ (e = a ∨ e = b) := by
  simp [occurrences]

/-! Only the order of conflicting edits counts. -/

theorem acceptFrom_perm_of_kept (same : kept.Perm kept') (rest : List Edit) :
    (acceptFrom text kept rest).Perm (acceptFrom text kept' rest) := by
  induction rest generalizing kept kept' with
  | nil =>
    rw [acceptFrom, acceptFrom]
    exact (List.reverse_perm kept).trans (same.trans (List.reverse_perm kept').symm)
  | cons e rest ih =>
    rw [acceptFrom, acceptFrom, same.any_eq]
    split
    · exact ih (same.cons e)
    · exact ih same

theorem acceptFrom_cons_perm
    (same : ∀ kept, (acceptFrom text kept first).Perm (acceptFrom text kept second)) (e : Edit) :
    (acceptFrom text kept (e :: first)).Perm (acceptFrom text kept (e :: second)) := by
  rw [acceptFrom, acceptFrom]
  split
  · exact same (e :: kept)
  · exact same kept

/-- Neighbours that do not conflict can change places. -/
theorem acceptFrom_swap (free : y.conflicts e = false) (rest : List Edit) :
    (acceptFrom text kept (y :: e :: rest)).Perm (acceptFrom text kept (e :: y :: rest)) := by
  have free' : e.conflicts y = false := conflicts_comm e y ▸ free
  by_cases takesY : (y.fits text && !kept.any (conflicts · y)) = true <;>
    by_cases takesE : (e.fits text && !kept.any (conflicts · e)) = true
  · simp only [acceptFrom, takesY, takesE, List.any_cons, free, free', Bool.false_or, if_true]
    exact acceptFrom_perm_of_kept (List.Perm.swap y e kept) rest
  all_goals
    simp only [acceptFrom, takesY, takesE, List.any_cons, free, free', Bool.false_or, if_true]
    exact List.Perm.refl _

theorem acceptFrom_middle (free : ∀ y ∈ front, y.conflicts e = false) :
    (acceptFrom text kept (front ++ e :: back)).Perm
      (acceptFrom text kept (e :: (front ++ back))) := by
  induction front generalizing kept with
  | nil => exact List.Perm.refl _
  | cons y front ih =>
    obtain ⟨here, later⟩ := List.forall_mem_cons.mp free
    apply List.Perm.trans (acceptFrom_cons_perm (fun _ => ih later) y)
    exact acceptFrom_swap here (front ++ back)

/-- An edit that is first among conflicting ones has nothing before it that it conflicts with. -/
theorem free_of_occurrences (absent : e ∉ front)
    (same : ∀ y, e.conflicts y = true →
      occurrences e y (e :: first) = occurrences e y (front ++ e :: back)) :
    ∀ y ∈ front, y.conflicts e = false := by
  intro y hy
  apply Bool.eq_false_iff.mpr
  intro conflict
  have order := same y (conflicts_comm e y ▸ conflict)
  have found : y ∈ occurrences e y front := mem_occurrences.mpr ⟨hy, .inr rfl⟩
  obtain ⟨z, zs, cut⟩ := List.exists_cons_of_ne_nil (List.ne_nil_of_mem found)
  have mem : z ∈ occurrences e y front := cut ▸ List.mem_cons_self
  unfold occurrences at order cut
  rw [List.filter_append, cut, List.filter_cons_of_pos (by simp)] at order
  obtain rfl : e = z := (List.cons.inj order).1
  exact absent (mem_occurrences.mp mem).1

/-- Taking an edit out of both lists leaves the others in the order in which they were. -/
theorem occurrences_of_cons (free : ∀ y ∈ front, y.conflicts e = false)
    (conflict : a.conflicts b = true)
    (same : occurrences a b (e :: first) = occurrences a b (front ++ e :: back)) :
    occurrences a b first = occurrences a b (front ++ back) := by
  unfold occurrences at *
  rw [List.filter_append] at *
  by_cases mine : e = a ∨ e = b
  · -- what conflicts with the edit is not in front of it
    have none : front.filter (fun e => decide (e = a ∨ e = b)) = [] := by
      apply List.filter_eq_nil_iff.mpr
      intro y hy asked
      exact Bool.eq_false_iff.mp (free y hy)
        (conflicts_of_eq_or_eq conflict (of_decide_eq_true asked) mine)
    rw [none, List.filter_cons_of_pos (by simpa using mine),
      List.filter_cons_of_pos (by simpa using mine)] at same
    rw [none]
    exact (List.cons.inj same).2
  · rwa [List.filter_cons_of_neg (by simpa using mine),
      List.filter_cons_of_neg (by simpa using mine)] at same

/-- Lists that hold conflicting edits in the same order lead to the same edits. -/
theorem acceptFrom_perm_of_occurrences
    (same : ∀ a b : Edit, a.conflicts b = true → occurrences a b first = occurrences a b second) :
    (acceptFrom text kept first).Perm (acceptFrom text kept second) := by
  induction first generalizing kept second with
  | nil =>
    cases second with
    | nil => exact List.Perm.refl _
    | cons e second => simpa [occurrences] using same e e (conflicts_self e)
  | cons e first ih =>
    have mem : e ∈ second := by
      have own : e ∈ occurrences e e (e :: first) := by simp
      rw [same e e (conflicts_self e)] at own
      exact (mem_occurrences.mp own).1
    obtain ⟨front, back, rfl, absent⟩ := List.eq_append_cons_of_mem mem
    have free := free_of_occurrences absent (same e)
    have rest (kept : List Edit) :
        (acceptFrom text kept first).Perm (acceptFrom text kept (front ++ back)) :=
      ih fun a b conflict => occurrences_of_cons free conflict (same a b conflict)
    exact (acceptFrom_cons_perm rest e).trans (acceptFrom_middle free).symm

/-! Sorting settles the order between different starts. -/

theorem byPriority_perm (edits : List Edit) : (byPriority edits).Perm edits :=
  List.mergeSort_perm _ _

theorem byPriority_pairwise (edits : List Edit) :
    (byPriority edits).Pairwise fun a b => b.start ≤ a.start := by
  have sorted := List.pairwise_mergeSort priority_trans priority_total edits
  exact sorted.imp of_decide_eq_true

theorem occurrences_byPriority (a b : Edit) (edits : List Edit) :
    occurrences a b (byPriority edits) = byPriority (occurrences a b edits) :=
  (mergeSort_filter priority_trans priority_total _ edits).symm

/-- Two edits that do not fight over one start are considered in the same order, however they were
submitted. -/
theorem occurrences_byPriority_of_perm (perm : edits.Perm others)
    (fits : ∀ e ∈ edits, e.fits text = true) (conflict : a.conflicts b = true)
    (noFight : ¬FightAtStart text a b) :
    occurrences a b (byPriority edits) = occurrences a b (byPriority others) := by
  have sorted (edits : List Edit) :
      (occurrences a b (byPriority edits)).Pairwise fun a b => b.start ≤ a.start :=
    (byPriority_pairwise edits).filter _
  have same : (byPriority edits).Perm (byPriority others) :=
    (byPriority_perm edits).trans (perm.trans (byPriority_perm others).symm)
  apply List.Perm.eq_of_pairwise _ (sorted edits) (sorted others) (same.filter _)
  intro x y hx hy first second
  have fitsAll (e : Edit) (mem : e ∈ byPriority edits) : e.fits text = true :=
    fits e ((byPriority_perm edits).mem_iff.mp mem)
  obtain ⟨memX, isX⟩ := mem_occurrences.mp hx
  obtain ⟨memY, isY⟩ := mem_occurrences.mp hy
  have fitsX := fitsAll x memX
  have fitsY := fitsAll y (same.mem_iff.mpr memY)
  rcases isX with rfl | rfl <;> rcases isY with rfl | rfl
  · rfl
  · exact absurd ⟨fitsX, fitsY, Nat.le_antisymm second first, conflict⟩ noFight
  · exact absurd ⟨fitsY, fitsX, Nat.le_antisymm first second, conflict⟩ noFight
  · rfl

theorem occurrences_filter_fits (ha : a.fits text = true) (hb : b.fits text = true)
    (edits : List Edit) : occurrences a b (edits.filter (fits text)) = occurrences a b edits := by
  unfold occurrences
  rw [List.filter_filter]
  apply List.filter_congr
  intro e _
  by_cases asked : e = a ∨ e = b
  · rcases asked with rfl | rfl <;> simp [ha, hb]
  · simp [asked]

theorem accepted_perm_of_occurrences (perm : edits.Perm others)
    (same : ∀ a b, FightAtStart text a b → occurrences a b edits = occurrences a b others) :
    (accepted text edits).Perm (accepted text others) := by
  rw [← accepted_filter_fits text edits, ← accepted_filter_fits text others]
  apply acceptFrom_perm_of_occurrences
  intro a b conflict
  by_cases fight : FightAtStart text a b
  · rw [occurrences_byPriority, occurrences_byPriority,
      occurrences_filter_fits fight.first fight.second,
      occurrences_filter_fits fight.first fight.second, same a b fight]
  · apply occurrences_byPriority_of_perm (perm.filter _) _ conflict fight
    exact fun e mem => (List.mem_filter.mp mem).2

/-- Submissions that differ at most in the order of edits that do not fight over one start have the
same outcome. -/
theorem applyEdits_eq_of_occurrences (file : SourceFile) (perm : edits.Perm others)
    (same : ∀ a b, FightAtStart file.text.toList a b →
      occurrences a b edits = occurrences a b others) :
    file.applyEdits edits = file.applyEdits others := by
  have perm' := accepted_perm_of_occurrences perm same
  have order : applied file.text.toList edits = applied file.text.toList others := by
    apply List.Perm.eq_of_pairwise _ (applied_before _ _) (applied_before _ _)
      ((applied_perm _ _).trans (perm'.trans (applied_perm _ _).symm))
    exact fun a b _ _ before after => absurd after before.asymm
  rw [applyEdits_eq, applyEdits_eq, List.reverse_inj.mp order]

/-! Two ways to keep the order of edits that fight. -/

theorem FightAtStart.of_eq_or_eq (fight : FightAtStart text a b) (hx : x = a ∨ x = b)
    (hy : y = a ∨ y = b) : FightAtStart text x y := by
  have own (e : Edit) (is : e = a ∨ e = b) : e.fits text = true ∧ e.start = a.start := by
    rcases is with rfl | rfl
    · exact ⟨fight.first, rfl⟩
    · exact ⟨fight.second, fight.sameStart.symm⟩
  obtain ⟨fitsX, startX⟩ := own x hx
  obtain ⟨fitsY, startY⟩ := own y hy
  exact ⟨fitsX, fitsY, startX.trans startY.symm, conflicts_of_eq_or_eq fight.conflict hx hy⟩

/-- Of edits that fight over one start there is at most one, if no two in the list do. -/
theorem occurrences_eq_of_free (perm : edits.Perm others)
    (free : edits.Pairwise fun a b => ¬FightAtStart text a b) (fight : FightAtStart text a b) :
    occurrences a b edits = occurrences a b others := by
  have alone : (occurrences a b edits).Pairwise fun _ _ => False := by
    refine (free.filter _).imp_of_mem ?_
    intro x y hx hy apart
    exact apart (fight.of_eq_or_eq (mem_occurrences.mp hx).2 (mem_occurrences.mp hy).2)
  have same : (occurrences a b edits).Perm (occurrences a b others) := perm.filter _
  match h : occurrences a b edits, alone with
  | [], _ =>
    rw [h] at same
    exact same.nil_eq
  | [x], _ =>
    rw [h] at same
    exact same.singleton_eq
  | x :: y :: rest, alone => exact ((List.pairwise_cons.mp alone).1 y List.mem_cons_self).elim

/-- Whether a list holds the submissions of another, any two that are related in the order of their
numbers. -/
def KeepsOrder (related : Edit → Edit → Prop) (edits others : List Edit) : Prop :=
  ∃ moved : List Submission, moved.Perm edits.zipIdx ∧ moved.map Prod.fst = others ∧
    moved.Pairwise fun x y => related x.1 y.1 → x.2 < y.2

theorem KeepsOrder.perm {related : Edit → Edit → Prop} (keeps : KeepsOrder related edits others) :
    edits.Perm others := by
  obtain ⟨moved, perm, rfl, -⟩ := keeps
  rw [← List.zipIdx_map_fst 0 edits]
  exact (perm.map Prod.fst).symm

theorem KeepsOrder.mono {related weaker : Edit → Edit → Prop}
    (keeps : KeepsOrder related edits others) (implies : ∀ a b, weaker a b → related a b) :
    KeepsOrder weaker edits others := by
  obtain ⟨moved, perm, rfl, ordered⟩ := keeps
  exact ⟨moved, perm, rfl, ordered.imp fun numbers fight => numbers (implies _ _ fight)⟩

theorem KeepsOrder.occurrences_eq (keeps : KeepsOrder (FightAtStart text) edits others)
    (fight : FightAtStart text a b) : occurrences a b edits = occurrences a b others := by
  obtain ⟨moved, perm, rfl, ordered⟩ := keeps
  -- in both lists the two edits are numbered from the front to the back
  have numbered : (moved.filter fun x => x.1 = a ∨ x.1 = b).Pairwise fun x y => x.2 < y.2 := by
    refine (ordered.filter _).imp_of_mem ?_
    intro x y hx hy numbers
    apply numbers
    exact fight.of_eq_or_eq (of_decide_eq_true (List.mem_filter.mp hx).2)
      (of_decide_eq_true (List.mem_filter.mp hy).2)
  have numbered' : edits.zipIdx.Pairwise fun x y => x.2 < y.2 := by
    apply List.pairwise_map.mp
    rw [List.zipIdx_map_snd]
    exact List.pairwise_lt_range'
  have same := List.Perm.eq_of_pairwise
    (fun x y _ _ first second => absurd second (Nat.lt_asymm first))
    numbered (numbered'.filter _) (perm.filter _)
  have among (list : List Submission) : occurrences a b (list.map Prod.fst) =
      (list.filter fun x => x.1 = a ∨ x.1 = b).map Prod.fst := List.filter_map ..
  calc occurrences a b edits = occurrences a b (edits.zipIdx.map Prod.fst) := by
        rw [List.zipIdx_map_fst]
    _ = occurrences a b (moved.map Prod.fst) := by rw [among, among, same]

end

/-- The order of submission counts only between edits that fight over one start. Lists that hold the
same edits have the same outcome if no two edits fight over one start, if edits with one start are
in the same order, or already if those are that fight. -/
theorem applyEdits_orderless (file : SourceFile) (edits others : List Edit) :
    (edits.Perm others → (edits.Pairwise fun a b => ¬FightAtStart file.text.toList a b) →
      file.applyEdits edits = file.applyEdits others) ∧
    (KeepsOrder (fun a b => a.start = b.start) edits others →
      file.applyEdits edits = file.applyEdits others) ∧
    (KeepsOrder (FightAtStart file.text.toList) edits others →
      file.applyEdits edits = file.applyEdits others) := by
  have general (keeps : KeepsOrder (FightAtStart file.text.toList) edits others) :
      file.applyEdits edits = file.applyEdits others :=
    applyEdits_eq_of_occurrences file keeps.perm fun _ _ => keeps.occurrences_eq
  refine ⟨?_, ?_, general⟩
  · intro perm free
    apply applyEdits_eq_of_occurrences file perm
    exact fun _ _ => occurrences_eq_of_free perm free
  · intro keeps
    apply general
    exact keeps.mono fun _ _ fight => fight.sameStart

def insertX : Edit := ⟨1, 1, "x", ⟨"a", "A"⟩⟩

def insertY : Edit := ⟨1, 1, "y", ⟨"b", "B"⟩⟩

/-- Starts where the insertions are and fights neither. -/
def replaceAccented : Edit := ⟨1, 3, "e", ⟨"c", "C"⟩⟩

def replaceFirst : Edit := ⟨0, 1, "b", ⟨"c", "C"⟩⟩

/-- Stops inside a character. -/
def misfit : Edit := ⟨1, 2, "", ⟨"d", "D"⟩⟩

def accentedFile : SourceFile where
  path := none
  text := "aéb"
  parser _ := .error ⟨"", 0⟩

theorem applyEdits_orderless_accentedFile :
    accentedFile.applyEdits [insertX, replaceAccented, misfit] =
        accentedFile.applyEdits [misfit, replaceAccented, insertX] ∧
      accentedFile.applyEdits [insertX, insertY, replaceFirst] =
        accentedFile.applyEdits [replaceFirst, insertX, insertY] ∧
      accentedFile.applyEdits [insertX, insertY, replaceAccented] =
        accentedFile.applyEdits [insertX, replaceAccented, insertY] := by
  refine ⟨?_, ?_, ?_⟩
  · apply (applyEdits_orderless accentedFile _ _).1
    · decide
    · decide +kernel
  · apply (applyEdits_orderless accentedFile _ _).2.1
    exact ⟨[(replaceFirst, 2), (insertX, 0), (insertY, 1)], by decide, rfl, by decide⟩
  · apply (applyEdits_orderless accentedFile _ _).2.2
    exact ⟨[(insertX, 0), (replaceAccented, 2), (insertY, 1)], by decide, rfl, by decide +kernel⟩

end SwiftStyle.Edit
