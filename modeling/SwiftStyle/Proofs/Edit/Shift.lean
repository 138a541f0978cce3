import Mathlib.Algebra.Ring.Int.Defs
import SwiftStyle.Proofs.Edit.Weaving
import SwiftStyle.Proofs.Token.Range

/-!
Where the bytes of a text go when edits are applied. An offset moves by the growth of all edits
before it. Outside of the edited bytes this keeps the order of offsets, and the text at the new
place is the text at the old one.
-/

namespace SwiftStyle.Edit

/-- By how many bytes an edit makes a text longer. -/
def growth (e : Edit) : Int :=
  (Text.size e.replacement.toList : Int) - ((e.stop : Int) - e.start)

/-- By how many bytes the edits before an offset make a text longer. -/
def growthBefore (edits : List Edit) (offset : Nat) : Int :=
  ((edits.filter fun e => e.stop ≤ offset).map growth).sum

/-- Where an offset goes when edits are applied: it is shifted by the growth before it. -/
def shifted (edits : List Edit) (offset : Nat) : Nat :=
  ((offset : Int) + growthBefore edits offset).toNat

/-- Edits in a row, each of which puts something in place of something. -/
structure Chain (edits : List Edit) : Prop where
  disjoint : edits.Pairwise fun a b => a.stop ≤ b.start
  replaces : ∀ e ∈ edits, e.start < e.stop
  puts : ∀ e ∈ edits, 0 < Text.size e.replacement.toList

theorem Chain.tail {e : Edit} {edits : List Edit} (h : Chain (e :: edits)) : Chain edits where
  disjoint := h.disjoint.of_cons
  replaces := fun a ha => h.replaces a (List.mem_cons_of_mem e ha)
  puts := fun a ha => h.puts a (List.mem_cons_of_mem e ha)

/-- An offset that no edit has strictly inside. -/
def Outside (edits : List Edit) (offset : Nat) : Prop :=
  ∀ e ∈ edits, offset ≤ e.start ∨ e.stop ≤ offset

theorem Chain.outside_start {edits : List Edit} (h : Chain edits) {e : Edit} (he : e ∈ edits) :
    Outside edits e.start := by
  intro a ha
  have replaces := h.replaces e he
  rcases eq_or_rel_of_pairwise h.disjoint he ha with rfl | follow | precede
  · exact .inl (Nat.le_refl _)
  · exact .inl (by omega)
  · exact .inr precede

theorem Chain.outside_stop {edits : List Edit} (h : Chain edits) {e : Edit} (he : e ∈ edits) :
    Outside edits e.stop := by
  intro a ha
  have replaces := h.replaces e he
  rcases eq_or_rel_of_pairwise h.disjoint he ha with rfl | follow | precede
  · exact .inr (Nat.le_refl _)
  · exact .inl follow
  · exact .inr (by omega)

theorem growthBefore_eq_zero {edits : List Edit} {offset : Nat}
    (late : ∀ e ∈ edits, offset < e.stop) : growthBefore edits offset = 0 := by
  unfold growthBefore
  rw [List.filter_eq_nil_iff.mpr]
  · rfl
  · intro e he
    have := late e he
    simp only [decide_eq_true_eq]
    omega

theorem growthBefore_cons (e : Edit) (edits : List Edit) (offset : Nat) :
    growthBefore (e :: edits) offset =
      (if e.stop ≤ offset then e.growth else 0) + growthBefore edits offset := by
  unfold growthBefore
  by_cases before : e.stop ≤ offset <;> simp [before]

/-- What the edits between two offsets take away is less than what lies between them. -/
theorem Chain.neg_lt_growthBefore {edits : List Edit} (h : Chain edits) {a b : Nat}
    (outside : Outside edits a) (ordered : a < b) :
    -((b : Int) - a) < growthBefore edits b - growthBefore edits a := by
  induction edits generalizing a with
  | nil =>
    simp only [growthBefore, List.filter_nil, List.map_nil, List.sum_nil]
    omega
  | cons e edits ih =>
    have follow := (List.pairwise_cons.mp h.disjoint).1
    have replaces := h.replaces e (by simp)
    have puts := h.puts e (by simp)
    rw [growthBefore_cons, growthBefore_cons]
    rcases outside e (by simp) with before | after
    · -- nothing is edited up to the start of the first edit
      have none : ∀ o, o ≤ e.stop → growthBefore edits o = 0 := by
        intro o ho
        refine growthBefore_eq_zero fun a ha => ?_
        have := follow a ha
        have := h.replaces a (List.mem_cons_of_mem e ha)
        omega
      rw [none a (by omega)]
      have notBefore : ¬e.stop ≤ a := by omega
      rw [if_neg notBefore]
      by_cases inside : b ≤ e.stop
      · rw [none b inside]
        unfold growth
        split <;> omega
      · have rest := ih h.tail (a := e.stop) (fun a ha => .inl (follow a ha)) (by omega)
        have earlier : e.stop ≤ b := by omega
        rw [none e.stop (Nat.le_refl _)] at rest
        rw [if_pos earlier]
        unfold growth
        omega
    · have rest := ih h.tail (fun a ha => outside a (List.mem_cons_of_mem e ha)) ordered
      have earlier : e.stop ≤ b := by omega
      rw [if_pos after, if_pos earlier]
      omega

theorem Chain.shifted_eq {edits : List Edit} (h : Chain edits) (offset : Nat) :
    (shifted edits offset : Int) = offset + growthBefore edits offset := by
  have none : growthBefore edits 0 = 0 := growthBefore_eq_zero fun e he => by
    have := h.replaces e he
    omega
  unfold shifted
  rcases Nat.eq_zero_or_pos offset with rfl | positive
  · rw [none]
    rfl
  · have := h.neg_lt_growthBefore (a := 0) (fun e _ => .inl (Nat.zero_le _)) positive
    omega

theorem Chain.shifted_lt {edits : List Edit} (h : Chain edits) {a b : Nat}
    (outside : Outside edits a) (ordered : a < b) : shifted edits a < shifted edits b := by
  have := h.neg_lt_growthBefore outside ordered
  have := h.shifted_eq a
  have := h.shifted_eq b
  omega

theorem Chain.shifted_le {edits : List Edit} (h : Chain edits) {a b : Nat}
    (outside : Outside edits a) (ordered : a ≤ b) : shifted edits a ≤ shifted edits b := by
  rcases Nat.eq_or_lt_of_le ordered with rfl | ordered
  · exact Nat.le_refl _
  · exact Nat.le_of_lt (h.shifted_lt outside ordered)

theorem Chain.growthBefore_stop {edits : List Edit} (h : Chain edits) {e : Edit}
    (he : e ∈ edits) : growthBefore edits e.stop = growthBefore edits e.start + e.growth := by
  induction edits with
  | nil => simp at he
  | cons a edits ih =>
    have follow := (List.pairwise_cons.mp h.disjoint).1
    rw [growthBefore_cons, growthBefore_cons]
    rcases List.mem_cons.mp he with rfl | he
    · have replaces := h.replaces e (by simp)
      have late : ∀ b ∈ edits, e.stop < b.stop := by
        intro b hb
        have := follow b hb
        have := h.tail.replaces b hb
        omega
      rw [growthBefore_eq_zero late, growthBefore_eq_zero fun b hb => by
        have := late b hb
        omega]
      have notBefore : ¬e.stop ≤ e.start := by omega
      rw [if_pos (Nat.le_refl _), if_neg notBefore]
      omega
    · have earlier := follow e he
      have replaces := h.tail.replaces e he
      have earlier' : a.stop ≤ e.stop := by omega
      rw [if_pos earlier, if_pos earlier', ih h.tail he]
      omega

/-- The end of an edit goes to the end of its replacement. -/
theorem Chain.shifted_stop {edits : List Edit} (h : Chain edits) {e : Edit} (he : e ∈ edits) :
    shifted edits e.stop = shifted edits e.start + Text.size e.replacement.toList := by
  have start := h.shifted_eq e.start
  have stop := h.shifted_eq e.stop
  rw [h.growthBefore_stop he] at stop
  have replaces := h.replaces e he
  unfold growth at stop
  omega

/-! The text at the new offsets. -/

/-- A text from an offset on with edits woven in starts with what stands before the edits. -/
theorem woven?_advance {text woven : List Char} {start middle : Nat} {edits : List Edit}
    (h : woven? text start edits = some woven) (ordered : start ≤ middle)
    (boundary : Text.isBoundary middle text = true) (later : ∀ e ∈ edits, middle ≤ e.start) :
    ∃ gap rest, woven = gap ++ rest ∧ Text.slice? start middle text = some gap ∧
      start + Text.size gap = middle ∧ woven? text middle edits = some rest := by
  cases edits with
  | nil =>
    have inside : middle ≤ Text.size text := by
      obtain ⟨before, after, rfl, rfl⟩ := Text.isBoundary_iff.mp boundary
      rw [Text.size_append]
      omega
    obtain ⟨gap, rest, rfl, hgap, hrest, sizes⟩ := Text.slice?_cut h boundary ordered inside
    exact ⟨gap, rest, rfl, hgap, sizes, hrest⟩
  | cons e edits =>
    simp only [woven?, Option.bind_eq_bind, Option.bind_eq_some_iff] at h
    obtain ⟨whole, hwhole, tail, htail, same⟩ := h
    cases same
    obtain ⟨gap, rest, rfl, hgap, hrest, sizes⟩ :=
      Text.slice?_cut hwhole boundary ordered (later e (by simp))
    refine ⟨gap, rest ++ e.replacement.toList ++ tail, by simp, hgap, sizes, ?_⟩
    simp [woven?, hrest, htail]

/-- Edits before an offset and edits after it are woven in one after the other. -/
theorem woven?_append {text woven : List Char} {start middle : Nat} {first second : List Edit}
    (h : woven? text start (first ++ second) = some woven) (ordered : start ≤ middle)
    (boundary : Text.isBoundary middle text = true) (earlier : ∀ e ∈ first, e.stop ≤ middle)
    (later : ∀ e ∈ second, middle ≤ e.start) :
    ∃ before after, woven = before ++ after ∧ woven? text middle second = some after ∧
      (Text.size before : Int) = middle - start + (first.map growth).sum := by
  induction first generalizing start woven with
  | nil =>
    obtain ⟨gap, rest, rfl, _, sizes, hrest⟩ := woven?_advance h ordered boundary later
    refine ⟨gap, rest, rfl, hrest, ?_⟩
    simp only [List.map_nil, List.sum_nil]
    omega
  | cons e first ih =>
    simp only [List.cons_append, woven?, Option.bind_eq_bind, Option.bind_eq_some_iff] at h
    obtain ⟨gap, hgap, tail, htail, same⟩ := h
    cases same
    obtain ⟨before, after, rfl, hafter, sizes⟩ := ih htail (earlier e (by simp))
      fun a ha => earlier a (List.mem_cons_of_mem e ha)
    obtain ⟨_, _, _, _, hsize⟩ := Text.slice?_eq_some_iff.mp hgap
    refine ⟨gap ++ e.replacement.toList ++ before, after, by simp, hafter, ?_⟩
    simp only [Text.size_append, List.map_cons, List.sum_cons, growth]
    omega

theorem growthBefore_append {first second : List Edit} {offset : Nat}
    (earlier : ∀ e ∈ first, e.stop ≤ offset) (later : ∀ e ∈ second, offset < e.stop) :
    growthBefore (first ++ second) offset = (first.map growth).sum := by
  have all : first.filter (fun e => e.stop ≤ offset) = first :=
    List.filter_eq_self.mpr fun e he => decide_eq_true (earlier e he)
  have none : second.filter (fun e => e.stop ≤ offset) = [] :=
    List.filter_eq_nil_iff.mpr fun e he => by
      have := later e he
      simp only [decide_eq_true_eq]
      omega
  rw [growthBefore, List.filter_append, all, none, List.append_nil]

/-- The edits of a chain fall apart at an offset outside of them. -/
theorem Chain.exists_split {edits : List Edit} (h : Chain edits) {offset : Nat}
    (outside : Outside edits offset) :
    ∃ first second, edits = first ++ second ∧ (∀ e ∈ first, e.stop ≤ offset) ∧
      ∀ e ∈ second, offset ≤ e.start := by
  induction edits with
  | nil => exact ⟨[], [], rfl, by simp, by simp⟩
  | cons e edits ih =>
    rcases outside e (by simp) with before | after
    · refine ⟨[], e :: edits, rfl, by simp, ?_⟩
      intro a ha
      rcases List.mem_cons.mp ha with rfl | ha
      · exact before
      · have follow := (List.pairwise_cons.mp h.disjoint).1 a ha
        have replaces := h.replaces e (by simp)
        omega
    · obtain ⟨first, second, rfl, earlier, later⟩ :=
        ih h.tail fun a ha => outside a (List.mem_cons_of_mem e ha)
      refine ⟨e :: first, second, rfl, ?_, later⟩
      intro a ha
      rcases List.mem_cons.mp ha with rfl | ha
      · exact after
      · exact earlier a ha

theorem Chain.exists_cut {text woven : List Char} {first second : List Edit} {offset : Nat}
    (h : Chain (first ++ second)) (hwoven : woven? text 0 (first ++ second) = some woven)
    (boundary : Text.isBoundary offset text = true) (earlier : ∀ e ∈ first, e.stop ≤ offset)
    (later : ∀ e ∈ second, offset ≤ e.start) :
    ∃ before after, woven = before ++ after ∧ woven? text offset second = some after ∧
      Text.size before = shifted (first ++ second) offset := by
  obtain ⟨before, after, cut, hafter, sizes⟩ :=
    woven?_append hwoven (Nat.zero_le _) boundary earlier later
  refine ⟨before, after, cut, hafter, ?_⟩
  have place := h.shifted_eq offset
  rw [growthBefore_append earlier fun e he => by
    have := later e he
    have := h.replaces e (List.mem_append_right first he)
    omega] at place
  omega

/-- What no edit touches is found where its start went. -/
theorem Chain.slice?_shifted {text woven part : List Char} {edits : List Edit} {start stop : Nat}
    (h : Chain edits) (hwoven : woven? text 0 edits = some woven)
    (found : Text.slice? start stop text = some part)
    (untouched : ∀ e ∈ edits, e.stop ≤ start ∨ stop ≤ e.start) :
    Text.slice? (shifted edits start) (shifted edits start + (stop - start)) woven
      = some part := by
  obtain ⟨front, back, whole, hstart, hstop⟩ := Text.slice?_eq_some_iff.mp found
  have hfirst : Text.isBoundary start text = true := by
    rw [whole, ← hstart, List.append_assoc]
    exact Text.isBoundary_size_append _ _
  have hlast : Text.isBoundary stop text = true := by
    rw [whole, ← hstop, ← hstart, ← Text.size_append]
    exact Text.isBoundary_size_append _ _
  have outside : Outside edits start := by
    intro e he
    have := untouched e he
    omega
  obtain ⟨first, second, rfl, earlier, later⟩ := h.exists_split outside
  obtain ⟨before, after, rfl, hafter, sizes⟩ := h.exists_cut hwoven hfirst earlier later
  obtain ⟨gap, rest, rfl, hgap, _, _⟩ := woven?_advance hafter (by omega) hlast (by
    intro e he
    have := later e he
    have := h.replaces e (List.mem_append_right first he)
    have := untouched e (List.mem_append_right first he)
    omega)
  have same : gap = part := Option.some.inj (hgap.symm.trans found)
  have length : stop - start = Text.size part := by omega
  rw [← sizes, length, same, ← List.append_assoc]
  exact Text.slice?_append before part rest

/-- The replacement of an edit is found between where its start and where its end went. -/
theorem Chain.slice?_replacement {text woven : List Char} {edits : List Edit} {e : Edit}
    (h : Chain edits) (hwoven : woven? text 0 edits = some woven) (he : e ∈ edits)
    (fits : e.fits text = true) :
    Text.slice? (shifted edits e.start) (shifted edits e.stop) woven
      = some e.replacement.toList := by
  obtain ⟨first, second, rfl⟩ := List.append_of_mem he
  obtain ⟨_, follow, precede⟩ := List.pairwise_append.mp h.disjoint
  have replaces := h.replaces e he
  have boundary : Text.isBoundary e.start text = true := by
    simp only [Edit.fits, Bool.and_eq_true] at fits
    exact fits.1.2
  obtain ⟨before, after, rfl, hafter, sizes⟩ := h.exists_cut hwoven boundary
    (fun a ha => precede a ha e (by simp)) (by
      intro a ha
      rcases List.mem_cons.mp ha with rfl | ha
      · exact Nat.le_refl _
      · have := (List.pairwise_cons.mp follow).1 a ha
        omega)
  simp only [woven?, Option.bind_eq_bind, Option.bind_eq_some_iff] at hafter
  obtain ⟨gap, hgap, rest, _, same⟩ := hafter
  cases same
  have none : gap = [] := by
    obtain ⟨_, _, _, _, size⟩ := Text.slice?_eq_some_iff.mp hgap
    exact Text.size_eq_zero_iff.mp (by omega)
  rw [h.shifted_stop he, ← sizes, none, List.nil_append, ← List.append_assoc]
  exact Text.slice?_append before e.replacement.toList rest

end SwiftStyle.Edit
