import SwiftStyle.Proofs.Path.Relative

/-!
The steps of a path apart from a dot in front, which is all that a search can lose of the directory
it starts in: what it finds makes the steps of the directory and then its own.
-/

namespace SwiftStyle.Path

/-- The steps of a path without the one to where one is. -/
def bare (path : Path) : List Component := path.components.filter (· != .here)

/-- Whether a path is a dot, or has none in front. -/
def IsStraight (path : Path) : Prop := path.components = [.here] ∨ .here ∉ path.components

section

variable {path path' : Path} {part : List Char} {steps : List (List Char)}

theorem filter_here {steps : List Component} (noDot : .here ∉ steps) :
    steps.filter (· != .here) = steps := by
  apply List.filter_eq_self.mpr
  intro step mem
  rw [bne_iff_ne]
  rintro rfl
  exact noDot mem

theorem bare_of_notMem (noDot : .here ∉ path.components) : path.bare = path.components :=
  filter_here noDot

theorem bare_eq (nonempty : path.text ≠ "") :
    path.bare = (if path.isAbsolute then [.root] else []) ++ stepsOf path.stem := by
  obtain ⟨first, rest, stem⟩ := List.exists_cons_of_ne_nil (stem_ne_nil nonempty)
  have kept (parts : List (List Char)) : (stepsOf parts).filter (· != .here) = stepsOf parts :=
    filter_here (not_mem_stepsOf parts).2
  have absolute := isAbsolute_iff nonempty stem
  rw [bare, components_eq nonempty stem, stem]
  by_cases root : first = []
  · rw [if_pos root, if_pos (absolute.mpr root), List.filter_cons_of_pos (by decide), kept,
      stepsOf_cons_of_silent (by rw [root]; rfl), List.singleton_append]
  · rw [if_neg root, if_neg (mt absolute.mp root), List.nil_append]
    by_cases here : first = ['.']
    · rw [if_pos here, List.filter_cons_of_neg (by decide), kept,
        stepsOf_cons_of_silent (by rw [here]; rfl)]
    · rw [if_neg here, kept]

theorem here_mem_iff (nonempty : path.text ≠ "") :
    .here ∈ path.components ↔ path.stem.head? = some ['.'] := by
  obtain ⟨first, rest, stem⟩ := List.exists_cons_of_ne_nil (stem_ne_nil nonempty)
  rw [components_eq nonempty stem, stem, List.head?_cons, Option.some.injEq]
  by_cases root : first = []
  · simp [root, not_mem_stepsOf]
  · by_cases here : first = ['.'] <;> simp [root, here, not_mem_stepsOf]

/-! Going on by one part. -/

theorem bare_ofList (noSlash : '/' ∉ part) :
    (Path.mk (String.ofList part)).bare = stepsOf [part] := by
  by_cases empty : part = []
  · subst empty
    decide +kernel
  · have filled : (Path.mk (String.ofList part)).text ≠ "" := by simpa [String.ext_iff] using empty
    have relative : Path.isAbsolute ⟨String.ofList part⟩ = false := by
      refine Bool.eq_false_iff.mpr fun absolute => noSlash ?_
      exact List.mem_of_head? (by simpa [isAbsolute] using absolute)
    rw [bare_eq filled, relative, stem_ofList empty noSlash]
    rfl

theorem isStraight_ofList (noSlash : '/' ∉ part) : IsStraight ⟨String.ofList part⟩ := by
  by_cases empty : part = []
  · subst empty
    right
    decide +kernel
  · have filled : (Path.mk (String.ofList part)).text ≠ "" := by simpa [String.ext_iff] using empty
    have stem := stem_ofList empty noSlash
    by_cases here : part = ['.']
    · exact .inl ((components_eq_here_iff filled stem).mpr ⟨here, nofun⟩)
    · right
      rw [here_mem_iff filled, stem]
      simpa using here

theorem components_of_empty (empty : path.text = "") : path.components = [] := by
  obtain ⟨text⟩ := path
  obtain rfl : text = "" := empty
  decide +kernel

theorem join_of_empty (empty : path.text = "") (part : List Char) :
    path.join (String.ofList part) = ⟨String.ofList part⟩ := by
  simp [join, empty]

theorem bare_join (noSlash : '/' ∉ part) :
    (path.join (String.ofList part)).bare = path.bare ++ stepsOf [part] := by
  by_cases empty : path.text = ""
  · rw [join_of_empty empty part, bare_ofList noSlash, bare, components_of_empty empty]
    rfl
  · have clean : '/' ∉ (String.ofList part).toList := by rwa [String.toList_ofList]
    rw [bare_eq (join_ne empty), bare_eq empty, isAbsolute_join empty clean,
      stem_join_ofList empty noSlash, stepsOf_append, stepsOf_filter, List.append_assoc]

theorem isStraight_join (noSlash : '/' ∉ part) (noDot : .here ∉ path.components) :
    (path.join (String.ofList part)).IsStraight := by
  by_cases empty : path.text = ""
  · rw [join_of_empty empty part]
    exact isStraight_ofList noSlash
  · right
    obtain ⟨first, rest, stem⟩ := List.exists_cons_of_ne_nil (stem_ne_nil empty)
    rw [here_mem_iff empty] at noDot
    rw [here_mem_iff (join_ne empty), stem_join_ofList empty noSlash]
    simpa [stem] using noDot

theorem bare_entry (noSlash : '/' ∉ part) :
    (path.entry (String.ofList part)).bare = path.bare ++ stepsOf [part] := by
  unfold entry
  split
  · next here =>
    rw [bare_ofList noSlash, bare, here]
    rfl
  · exact bare_join noSlash

theorem isStraight_entry (noSlash : '/' ∉ part) (straight : path.IsStraight) :
    (path.entry (String.ofList part)).IsStraight := by
  unfold entry
  split
  · exact isStraight_ofList noSlash
  · next elsewhere => exact isStraight_join noSlash (straight.resolve_left elsewhere)

/-- Behind a dot, another one. -/
theorem isStraight_join_here (straight : path.IsStraight) :
    (path.join (String.ofList ['.'])).IsStraight := by
  rcases straight with here | noDot
  · have nonempty : path.text ≠ "" := by
      intro empty
      rw [components_of_empty empty] at here
      cases here
    obtain ⟨first, rest, stem⟩ := List.exists_cons_of_ne_nil (stem_ne_nil nonempty)
    obtain ⟨dot, silent⟩ := (components_eq_here_iff nonempty stem).mp here
    have clean : '/' ∉ ['.'] := by decide
    have longer := stem_join_ofList nonempty clean
    rw [stem, List.cons_append] at longer
    refine .inl ((components_eq_here_iff (join_ne nonempty) longer).mpr ⟨dot, ?_⟩)
    exact List.forall_mem_append.mpr ⟨silent, by decide⟩
  · exact isStraight_join (by decide) noDot

/-! Going on by several parts. -/

theorem Spells.bare_eq (h : Spells path steps path') (noSlash : ∀ part ∈ steps, '/' ∉ part) :
    path'.bare = path.bare ++ stepsOf steps := by
  induction h with
  | done path => exact (List.append_nil _).symm
  | @entry path path' part steps _ ih =>
    obtain ⟨clean, noSlash⟩ := List.forall_mem_cons.mp noSlash
    rw [ih noSlash, bare_entry clean, List.append_assoc, ← stepsOf_append, List.singleton_append]
  | @dots path path' part steps _ _ ih =>
    obtain ⟨clean, noSlash⟩ := List.forall_mem_cons.mp noSlash
    rw [ih noSlash, bare_join clean, List.append_assoc, ← stepsOf_append, List.singleton_append]

/-- Only a step up can leave a dot in front. -/
theorem Spells.isStraight (h : Spells path steps path') (noSlash : ∀ part ∈ steps, '/' ∉ part)
    (noUp : ['.', '.'] ∉ steps) (straight : path.IsStraight) : path'.IsStraight := by
  induction h with
  | done path => exact straight
  | entry _ ih =>
    obtain ⟨clean, noSlash⟩ := List.forall_mem_cons.mp noSlash
    obtain ⟨-, noUp⟩ := not_or.mp (mt List.mem_cons.mpr noUp)
    exact ih noSlash noUp (isStraight_entry clean straight)
  | dots dots _ ih =>
    obtain ⟨other, noUp⟩ := not_or.mp (mt List.mem_cons.mpr noUp)
    rw [dots.resolve_right (Ne.symm other)] at ih
    exact ih (List.forall_mem_cons.mp noSlash).2 noUp (isStraight_join_here straight)

theorem isStraight_foldl_entry (noSlash : ∀ part ∈ steps, '/' ∉ part)
    (straight : path.IsStraight) :
    (steps.foldl (fun path part => path.entry (String.ofList part)) path).IsStraight := by
  induction steps generalizing path with
  | nil => exact straight
  | cons part steps ih =>
    obtain ⟨clean, noSlash⟩ := List.forall_mem_cons.mp noSlash
    exact ih noSlash (isStraight_entry clean straight)

end

/-! The directory as a search spells it. -/

section

variable {root : Path}

theorem isStraight_searched : (searched root).IsStraight := by
  have noSlash : ∀ part ∈ root.parts, '/' ∉ part := fun part => not_mem_of_mem_split
  have fromRoot : (Path.mk "/").IsStraight := .inr (by decide +kernel)
  have fromHere : (Path.mk ".").IsStraight := .inl (by decide +kernel)
  unfold searched
  by_cases absolute : root.isAbsolute = true
  · rw [if_pos absolute]
    exact isStraight_foldl_entry (fun part mem => noSlash part (List.mem_of_mem_tail mem)) fromRoot
  · rw [if_neg absolute]
    exact isStraight_foldl_entry noSlash fromHere

theorem bare_searched (nonempty : root.text ≠ "") : (searched root).bare = root.bare := by
  obtain ⟨first, rest, parts⟩ := List.exists_cons_of_ne_nil (split_ne_nil root.text.toList)
  obtain ⟨rest', stem, same⟩ := exists_stem nonempty parts
  have noSlash : ∀ part ∈ root.parts, '/' ∉ part := fun part => not_mem_of_mem_split
  rw [bare_eq nonempty, stem]
  unfold searched
  by_cases absolute : root.isAbsolute = true
  · have isRoot := (isAbsolute_iff nonempty stem).mp absolute
    have start : (Path.mk "/").bare = [.root] := by decide +kernel
    rw [if_pos absolute, if_pos absolute]
    refine ((spells_foldl ⟨"/"⟩ root.parts.tail).bare_eq fun part mem =>
      noSlash part (List.mem_of_mem_tail mem)).trans ?_
    rw [start, isRoot, stepsOf_cons_of_silent rfl, same, Path.parts, parts, List.tail_cons]
  · have start : (Path.mk ".").bare = [] := by decide +kernel
    rw [if_neg absolute, if_neg absolute]
    refine ((spells_foldl ⟨"."⟩ root.parts).bare_eq noSlash).trans ?_
    rw [start, ← List.singleton_append, stepsOf_append, same, ← stepsOf_append, Path.parts, parts,
      List.singleton_append]

end

end SwiftStyle.Path
