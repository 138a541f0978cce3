import SwiftStyle.Proofs.Path.Spelling

/-!
What a path spells after a directory, if it was reached by steps from the directory. Except for a
directory that is spelled with a dot in front of something else, that is what the steps spell: it
does not depend on how the directory is spelled.
-/

namespace SwiftStyle.Path

/-- How a path is spelled after some steps from a place: each step is an entry, or one of the two
names for the place and its parent that every directory has. -/
inductive Spells : Path → List (List Char) → Path → Prop where
  | done (path : Path) : Spells path [] path
  | entry {path path' : Path} {part : List Char} {steps : List (List Char)} :
      Spells (path.entry (String.ofList part)) steps path' → Spells path (part :: steps) path'
  | dots {path path' : Path} {part : List Char} {steps : List (List Char)} :
      part = ['.'] ∨ part = ['.', '.'] →
      Spells (path.join (String.ofList part)) steps path' → Spells path (part :: steps) path'

theorem spells_foldl (path : Path) (parts : List (List Char)) :
    Spells path parts (parts.foldl (fun path part => path.entry (String.ofList part)) path) := by
  induction parts generalizing path with
  | nil => exact .done path
  | cons part parts ih => exact .entry (ih _)

theorem Spells.append {path path' path'' : Path} {a b : List (List Char)} (h : Spells path a path')
    (h' : Spells path' b path'') : Spells path (a ++ b) path'' := by
  induction h with
  | done path => exact h'
  | entry _ ih => exact .entry (ih h')
  | dots dots _ ih => exact .dots dots (ih h')

/-- What steps spell: the parts that are not empty, from the first that says something. -/
def relativeParts (steps : List (List Char)) : List (List Char) :=
  (steps.filter fun part => !part.isEmpty).dropWhile isSilent

theorem exists_dropWhile_isSilent {last : List Char} (speaks : isSilent last = false)
    (init : List (List Char)) :
    ∃ front, (init ++ [last]).dropWhile isSilent = front ++ [last] := by
  rw [List.dropWhile_append]
  split
  · exact ⟨[], by simp [speaks]⟩
  · exact ⟨_, rfl⟩

theorem exists_relativeParts {last : List Char} (speaks : isSilent last = false)
    (init : List (List Char)) : ∃ front, relativeParts (init ++ [last]) = front ++ [last] := by
  have alone : [last].filter (fun part => !part.isEmpty) = [last] := by
    cases last with
    | nil => cases speaks
    | cons c cs => rfl
  rw [relativeParts, List.filter_append, alone]
  exact exists_dropWhile_isSilent speaks _

theorem relativeParts_of_nonempty {steps : List (List Char)} (nonempty : [] ∉ steps) :
    relativeParts steps = steps.dropWhile isSilent := by
  rw [relativeParts, List.filter_eq_self.mpr fun part h => ?_]
  cases part with
  | nil => exact absurd h nonempty
  | cons c cs => rfl

theorem relativeParts_of_names {steps : List (List Char)} (names : ∀ part ∈ steps, IsName part) :
    relativeParts steps = steps := by
  rw [relativeParts_of_nonempty fun mem => (names [] mem).nonempty rfl]
  cases steps with
  | nil => rfl
  | cons part steps =>
    exact List.dropWhile_cons_of_neg (by simp [(names part List.mem_cons_self).isSilent])

theorem text_ofParts (names : List String) :
    (ofParts (names.map String.toList)).text = "/".intercalate names := by
  rw [ofParts, ← String.toList_inj, String.toList_ofList, String.toList_intercalate]
  rfl

/-! Directories that are not spelled with a dot in front. -/

section

variable {root path path' : Path} {steps : List (List Char)}

theorem entry_eq_join (nonempty : path.text ≠ "") (noDot : path.stem.head? ≠ some ['.'])
    (name : String) : path.entry name = path.join name := by
  obtain ⟨first, rest, whole⟩ := List.exists_cons_of_ne_nil (stem_ne_nil nonempty)
  refine if_neg fun here => ?_
  rw [components_eq_here_iff nonempty whole] at here
  simp [whole, here.1] at noDot

theorem stem_join_ofList {part : List Char} (nonempty : path.text ≠ "") (noSlash : '/' ∉ part) :
    (path.join (String.ofList part)).stem =
      path.stem ++ [part].filter fun part => !part.isEmpty := by
  have clean : '/' ∉ (String.ofList part).toList := by rwa [String.toList_ofList]
  rw [stem_join nonempty clean, String.toList_ofList]

/-- A path that leads somewhere else does so when it goes on. -/
theorem components_join_ne {part : List Char} (nonempty : path.text ≠ "") (noSlash : '/' ∉ part)
    (elsewhere : path.components ≠ [.here] ∨ isSilent part = false) :
    (path.join (String.ofList part)).components ≠ [.here] := by
  obtain ⟨first, rest, stem⟩ := List.exists_cons_of_ne_nil (stem_ne_nil nonempty)
  have longer := stem_join_ofList nonempty noSlash
  rw [stem, List.cons_append] at longer
  intro here
  obtain ⟨dot, silent⟩ := (components_eq_here_iff (join_ne nonempty) longer).mp here
  rcases elsewhere with elsewhere | speaks
  · exact elsewhere ((components_eq_here_iff nonempty stem).mpr
      ⟨dot, fun part h => silent part (List.mem_append_left _ h)⟩)
  · have kept : part ∈ [part].filter fun part => !part.isEmpty := by
      cases part with
      | nil => simp [isSilent] at speaks
      | cons c cs => simp
    rw [silent part (List.mem_append_right _ kept)] at speaks
    exact Bool.false_ne_true speaks.symm

/-- A path that does not start with a dot only gets longer. -/
theorem Spells.stem_eq (h : Spells path steps path') (nonempty : path.text ≠ "")
    (noDot : path.stem.head? ≠ some ['.']) (noSlash : ∀ part ∈ steps, '/' ∉ part) :
    path'.text ≠ "" ∧ path'.stem = path.stem ++ steps.filter fun part => !part.isEmpty := by
  -- either way of going on makes the stem longer by a part
  have goesOn : ∀ {path path' : Path} {part : List Char} {steps : List (List Char)},
      path.text ≠ "" → path.stem.head? ≠ some ['.'] → '/' ∉ part →
      ((path.join (String.ofList part)).text ≠ "" →
        (path.join (String.ofList part)).stem.head? ≠ some ['.'] →
        path'.text ≠ "" ∧ path'.stem = (path.join (String.ofList part)).stem ++
          steps.filter fun part => !part.isEmpty) →
      path'.text ≠ "" ∧ path'.stem =
        path.stem ++ (part :: steps).filter fun part => !part.isEmpty := by
    intro path path' part steps nonempty noDot clean rest
    obtain ⟨first, others, whole⟩ := List.exists_cons_of_ne_nil (stem_ne_nil nonempty)
    have longer := stem_join_ofList nonempty clean
    obtain ⟨nonempty', same⟩ := rest (join_ne nonempty) (by simpa [longer, whole] using noDot)
    refine ⟨nonempty', ?_⟩
    rw [same, longer, List.append_assoc, ← List.filter_append, List.singleton_append]
  induction h with
  | done path => simp [nonempty]
  | entry _ ih =>
    obtain ⟨clean, noSlash⟩ := List.forall_mem_cons.mp noSlash
    rw [entry_eq_join nonempty noDot] at ih
    exact goesOn nonempty noDot clean fun nonempty noDot => ih nonempty noDot noSlash
  | dots _ _ ih =>
    obtain ⟨clean, noSlash⟩ := List.forall_mem_cons.mp noSlash
    exact goesOn nonempty noDot clean fun nonempty noDot => ih nonempty noDot noSlash

/-- What a path spells after a directory, if it goes on where the directory ends. -/
theorem after?_of_stem {first : List Char} {rest kept added : List (List Char)}
    (nonempty : root.text ≠ "") (nonempty' : path.text ≠ "") (noDot : first ≠ ['.'])
    (stem : root.stem = first :: rest) (stem' : path.stem = first :: (kept ++ added))
    (same : stepsOf kept = stepsOf rest) (whole : path.parts = path.stem) :
    path.after? root = some (ofParts (trimEnd (added.dropWhile isSilent))) := by
  have comps := components_eq nonempty stem
  have comps' := components_eq nonempty' stem'
  have absolute := isAbsolute_iff nonempty' stem'
  have speaks (notRoot : first ≠ []) : isSilent first = false := by
    simp [isSilent, notRoot, noDot]
  have longer : path.components = root.components ++ stepsOf added := by
    rw [comps, comps']
    by_cases isRoot : first = []
    · simp [isRoot, same]
    · simp [isRoot, noDot, stepsOf_cons (speaks isRoot), same]
  have number : root.components.length = (stepsOf kept).length + 1 := by
    rw [comps]
    by_cases isRoot : first = []
    · simp [isRoot, same]
    · simp [isRoot, noDot, stepsOf_cons (speaks isRoot), same]
  have starts : root.components.isPrefixOf path.components = true := by
    rw [longer, List.isPrefixOf_iff_prefix]
    exact List.prefix_append _ _
  unfold after?
  simp only [starts, if_true, whole, stem', number]
  by_cases isRoot : first = []
  · rw [if_pos (by simp [absolute.mpr isRoot]), partsAfter_append rfl]
  · have relative : path.isAbsolute = false := Bool.eq_false_iff.mpr fun h => isRoot (absolute.mp h)
    have steps : (stepsOf (first :: kept)).length = (stepsOf kept).length + 1 := by
      rw [stepsOf_cons (speaks isRoot), List.length_cons]
    rw [if_neg (by simp [relative, noDot]), ← List.cons_append, partsAfter_append steps]

end

/-! Directories that are spelled with nothing but dots. -/

/-- Whether a path is spelled by some dots and by what steps spell. -/
def AfterDots (steps : List (List Char)) (path : Path) : Prop :=
  path.text ≠ "" ∧ ∃ dots, (∀ part ∈ dots, part = ['.']) ∧
    path.stem = dots ++ steps.dropWhile isSilent

section

variable {root path path' : Path} {steps init : List (List Char)} {part last : List Char}

theorem stem_ofList (nonempty : part ≠ []) (noSlash : '/' ∉ part) :
    (Path.mk (String.ofList part)).stem = [part] := by
  have cut : (Path.mk (String.ofList part)).parts = [part] := by
    rw [parts, String.toList_ofList, split_of_not_mem noSlash]
  simp [stem, cut, nonempty]

theorem components_entry_ne (nonempty : path.text ≠ "") (noSlash : '/' ∉ part)
    (elsewhere : path.components ≠ [.here] ∨ isSilent part = false) :
    (path.entry (String.ofList part)).components ≠ [.here] := by
  unfold entry
  split
  · next here =>
    have speaks := elsewhere.resolve_left (· here)
    have filled : part ≠ [] := by
      rintro rfl
      simp [isSilent] at speaks
    have nonempty' : String.ofList part ≠ "" := by simpa [String.ext_iff] using filled
    intro here
    have dot := ((components_eq_here_iff nonempty' (stem_ofList filled noSlash)).mp here).1
    simp [dot, isSilent] at speaks
  · exact components_join_ne nonempty noSlash elsewhere

/-- Steps from somewhere else than where one is are spelled so that they say that. -/
theorem Spells.components_ne (h : Spells path steps path') (nonempty : path.text ≠ "")
    (elsewhere : path.components ≠ [.here]) (noSlash : ∀ part ∈ steps, '/' ∉ part) :
    path'.components ≠ [.here] := by
  induction h with
  | done => exact elsewhere
  | entry _ ih =>
    obtain ⟨clean, noSlash⟩ := List.forall_mem_cons.mp noSlash
    refine ih ?_ (components_entry_ne nonempty clean (.inl elsewhere)) noSlash
    rw [Path.entry, if_neg elsewhere]
    exact join_ne nonempty
  | dots _ _ ih =>
    obtain ⟨clean, noSlash⟩ := List.forall_mem_cons.mp noSlash
    exact ih (join_ne nonempty) (components_join_ne nonempty clean (.inl elsewhere)) noSlash

theorem AfterDots.join (h : AfterDots steps path) (nonempty : part ≠ []) (noSlash : '/' ∉ part)
    (goesOn : steps.dropWhile isSilent ≠ [] ∨ part = ['.'] ∨ part = ['.', '.']) :
    AfterDots (steps ++ [part]) (path.join (String.ofList part)) := by
  obtain ⟨notEmpty, dots, allDots, stem⟩ := h
  have longer := stem_join_ofList notEmpty noSlash
  have kept : [part].filter (fun part => !part.isEmpty) = [part] := by
    cases part with
    | nil => exact absurd rfl nonempty
    | cons c cs => rfl
  rw [kept, stem] at longer
  refine ⟨join_ne notEmpty, ?_⟩
  by_cases nothing : steps.dropWhile isSilent = []
  · rw [nothing, List.append_nil] at longer
    rcases goesOn.resolve_left (· nothing) with rfl | rfl
    · refine ⟨dots ++ [['.']], ?_, ?_⟩
      · exact fun part h => (List.mem_append.mp h).elim (allDots part) List.mem_singleton.mp
      · simp [longer, List.dropWhile_append, nothing, isSilent]
    · exact ⟨dots, allDots, by simp [longer, List.dropWhile_append, nothing, isSilent]⟩
  · exact ⟨dots, allDots, by simp [longer, List.dropWhile_append, nothing]⟩

theorem AfterDots.entry (h : AfterDots steps path) (nonempty : part ≠ []) (noSlash : '/' ∉ part) :
    AfterDots (steps ++ [part]) (path.entry (String.ofList part)) := by
  have start := h
  obtain ⟨notEmpty, dots, allDots, stem⟩ := h
  obtain ⟨first, rest, whole⟩ := List.exists_cons_of_ne_nil (stem_ne_nil notEmpty)
  by_cases here : path.components = [.here]
  · -- the entries of the directory one is in are spelled by their names
    have nothing : steps.dropWhile isSilent = [] := by
      obtain ⟨rfl, silent⟩ := (components_eq_here_iff notEmpty whole).mp here
      have all : ∀ part ∈ path.stem, isSilent part = true := by
        rw [whole]
        exact List.forall_mem_cons.mpr ⟨rfl, silent⟩
      refine Classical.byContradiction fun speaks => ?_
      have head := List.head_dropWhile_not isSilent speaks
      rw [all _ (stem ▸ List.mem_append_right _ (List.head_mem speaks))] at head
      exact Bool.false_ne_true head.symm
    rw [Path.entry, if_pos here]
    refine ⟨?_, ?_⟩
    · simpa [String.ext_iff] using nonempty
    · rw [stem_ofList nonempty noSlash, List.dropWhile_append, nothing]
      by_cases dot : part = ['.']
      · exact ⟨[['.']], by simp, by simp [dot, isSilent]⟩
      · exact ⟨[], by simp, by simp [isSilent, nonempty, dot]⟩
  · rw [Path.entry, if_neg here]
    by_cases nothing : steps.dropWhile isSilent = []
    · refine absurd ((components_eq_here_iff notEmpty whole).mpr ?_) here
      rw [nothing, List.append_nil] at stem
      rw [← stem, whole] at allDots
      obtain ⟨dot, others⟩ := List.forall_mem_cons.mp allDots
      exact ⟨dot, fun part hpart => by rw [others part hpart]; rfl⟩
    · exact start.join nonempty noSlash (.inl nothing)

theorem Spells.afterDots (h : Spells path steps path') {before : List (List Char)}
    (start : AfterDots before path) (clean : ∀ part ∈ steps, part ≠ [] ∧ '/' ∉ part) :
    AfterDots (before ++ steps) path' := by
  induction h generalizing before with
  | done path => simpa using start
  | @entry path path' part steps _ ih =>
    obtain ⟨⟨nonempty, noSlash⟩, clean⟩ := List.forall_mem_cons.mp clean
    simpa using ih (start.entry nonempty noSlash) clean
  | @dots path path' part steps dots _ ih =>
    obtain ⟨⟨nonempty, noSlash⟩, clean⟩ := List.forall_mem_cons.mp clean
    simpa using ih (start.join nonempty noSlash (.inr dots)) clean

theorem components_eq_here_of_dots (nonempty : root.text ≠ "")
    (dots : ∀ part ∈ root.parts, part = ['.']) : root.components = [.here] := by
  have same : root.stem = root.parts := by
    refine if_neg fun last => ?_
    exact List.cons_ne_nil _ _ (dots [] (List.mem_of_getLast? last)).symm
  obtain ⟨first, rest, cut⟩ := List.exists_cons_of_ne_nil (stem_ne_nil nonempty)
  rw [← same, cut] at dots
  obtain ⟨dot, others⟩ := List.forall_mem_cons.mp dots
  refine (components_eq_here_iff nonempty cut).mpr ⟨dot, fun part mem => ?_⟩
  rw [others part mem]
  rfl

/-- What a path spells after a directory of dots: it is either spelled without the dots, so that all
of it counts, or with them. -/
theorem AfterDots.relative (h : AfterDots (init ++ [last]) path) (speaks : isSilent last = false)
    (whole : path.parts = path.stem) (nonempty : root.text ≠ "")
    (dots : ∀ part ∈ root.parts, part = ['.']) :
    (path.after? root).getD path = ofParts ((init ++ [last]).dropWhile isSilent) := by
  obtain ⟨notEmpty, front, allDots, stem⟩ := h
  obtain ⟨ending, relative⟩ := exists_dropWhile_isSilent speaks init
  have rootHere := components_eq_here_of_dots nonempty dots
  obtain ⟨first, rest, starts⟩ : ∃ first rest,
      (init ++ [last]).dropWhile isSilent = first :: rest :=
    List.exists_cons_of_ne_nil (by simp [relative])
  have speaks' : isSilent first = false := by
    have head := List.head_dropWhile_not isSilent (l := init ++ [last]) (by simp [relative])
    simpa [starts] using head
  cases front with
  | nil =>
    -- the path does not start where the directory does, so that nothing is taken off
    have notHere : ¬([Component.here].isPrefixOf path.components = true) := by
      have step := (componentOf_ne first).2
      rw [starts] at stem
      rw [components_eq notEmpty stem, if_neg (by rintro rfl; simp [isSilent] at speaks'),
        if_neg (by rintro rfl; simp [isSilent] at speaks'), stepsOf_cons speaks']
      simp [step.symm]
    rw [after?, rootHere, if_neg notHere, Option.getD_none]
    rw [List.nil_append, ← whole] at stem
    rw [← stem, ofParts_parts]
  | cons dot front =>
    obtain ⟨rfl, others⟩ := List.forall_mem_cons.mp allDots
    rw [List.cons_append] at stem
    have isHere : [Component.here].isPrefixOf path.components = true := by
      simp [components_eq notEmpty stem]
    have silent : (stepsOf front).length = 0 := by
      rw [stepsOf_of_silent fun part hpart => by rw [others part hpart]; rfl, List.length_nil]
    have after := partsAfter_append silent ((init ++ [last]).dropWhile isSilent)
    rw [starts, List.dropWhile_cons_of_neg (by simp [speaks']), ← starts] at after
    simp only [after?, rootHere, isHere, if_true, List.length_singleton, whole, stem, decide_true,
      Bool.or_true, after, Option.getD_some]
    rw [relative, trimEnd_concat speaks]

end

/-! How a search spells the directory it starts in. -/

/-- A directory as a search spells it that goes there step by step, from the root or from where one
is. -/
def searched (root : Path) : Path :=
  let (start, parts) :=
    if root.isAbsolute then (Path.mk "/", root.parts.tail) else (Path.mk ".", root.parts)
  parts.foldl (fun path part => path.entry (String.ofList part)) start

section

variable {root path : Path} {init : List (List Char)} {last : List Char}

theorem searched_stem {first : List Char} {rest : List (List Char)} (nonempty : root.text ≠ "")
    (parts : root.parts = first :: rest) (noDot : first ≠ ['.']) :
    (searched root).text ≠ "" ∧
      (searched root).stem = first :: rest.filter fun part => !part.isEmpty := by
  obtain ⟨rest', stem, -⟩ := exists_stem nonempty parts
  have clean : ∀ part ∈ rest, '/' ∉ part := fun part h =>
    not_mem_of_mem_split (parts ▸ List.mem_cons_of_mem first h : part ∈ root.parts)
  have clean' : '/' ∉ first :=
    not_mem_of_mem_split (parts ▸ List.mem_cons_self : first ∈ root.parts)
  have absolute := isAbsolute_iff nonempty stem
  by_cases isRoot : first = []
  · have slash : (Path.mk "/").stem = [[]] := by decide +kernel
    unfold searched
    rw [if_pos (absolute.mpr isRoot), parts, isRoot]
    have grown := (spells_foldl ⟨"/"⟩ rest).stem_eq (by decide) (by simp [slash]) clean
    rwa [slash] at grown
  · have here : (Path.mk ".").entry (String.ofList first) = ⟨String.ofList first⟩ :=
      if_pos (by decide +kernel)
    have alone := stem_ofList isRoot clean'
    unfold searched
    rw [if_neg fun h => isRoot (absolute.mp h), parts]
    simp only [List.foldl_cons, here]
    have grown := (spells_foldl ⟨String.ofList first⟩ rest).stem_eq
      (by simpa [String.ext_iff] using isRoot) (by simpa [alone] using noDot) clean
    rwa [alone] at grown

theorem components_searched_ne (nonempty : root.text ≠ "") (noDot : root.parts.head? ≠ some ['.']) :
    (searched root).components ≠ [.here] := by
  obtain ⟨first, rest, parts⟩ := List.exists_cons_of_ne_nil (split_ne_nil root.text.toList)
  have noDot : first ≠ ['.'] := by
    rw [Path.parts, parts] at noDot
    simpa using noDot
  obtain ⟨nonempty', stem⟩ := searched_stem nonempty parts noDot
  intro here
  exact noDot ((components_eq_here_iff nonempty' stem).mp here).1

theorem searched_afterDots (dots : ∀ part ∈ root.parts, part = ['.']) :
    AfterDots root.parts (searched root) := by
  have relative : root.isAbsolute = false := by
    refine Bool.eq_false_iff.mpr fun absolute => ?_
    obtain ⟨cs, whole⟩ : ∃ cs, root.text.toList = '/' :: cs := by
      obtain ⟨cs, whole⟩ := List.head?_eq_some_iff.mp (by simpa [isAbsolute] using absolute)
      exact ⟨cs, whole⟩
    have empty := dots [] (by rw [parts, whole, split_slash]; exact List.mem_cons_self)
    exact List.cons_ne_nil _ _ empty.symm
  have start : AfterDots [] ⟨"."⟩ := ⟨by decide, [['.']], by simp, by decide +kernel⟩
  unfold searched
  rw [relative]
  refine (spells_foldl ⟨"."⟩ root.parts).afterDots start fun part hpart => ?_
  rw [dots part hpart]
  exact ⟨by decide, by decide⟩

/-- What a file spells after the directory it was reached from is what the steps to it spell. -/
theorem relative_eq (nonempty : root.text ≠ "")
    (plain : root.parts.head? ≠ some ['.'] ∨
      (∀ part ∈ root.parts, part = ['.']) ∧ [] ∉ init ++ [last])
    (spells : Spells (searched root) (init ++ [last]) path) (speaks : isSilent last = false)
    (noSlash : ∀ part ∈ init ++ [last], '/' ∉ part) (whole : path.parts = path.stem) :
    (path.after? root).getD path = ofParts (relativeParts (init ++ [last])) := by
  -- a path from a directory without a dot in front keeps its start; from dots it may lose it
  rcases plain with noDot | ⟨dots, filled⟩
  · obtain ⟨first, rest, parts⟩ := List.exists_cons_of_ne_nil (split_ne_nil root.text.toList)
    have noDot : first ≠ ['.'] := by
      rw [Path.parts, parts] at noDot
      simpa using noDot
    obtain ⟨nonempty', stem⟩ := searched_stem nonempty parts noDot
    obtain ⟨nonempty'', stem'⟩ := spells.stem_eq nonempty' (by simpa [stem] using noDot) noSlash
    rw [stem, List.cons_append] at stem'
    obtain ⟨rest', stem, same⟩ := exists_stem nonempty parts
    rw [← stepsOf_filter rest] at same
    obtain ⟨front, relative⟩ := exists_relativeParts speaks init
    rw [after?_of_stem nonempty nonempty'' noDot stem stem' same.symm whole, Option.getD_some,
      ← relativeParts, relative, trimEnd_concat speaks]
  · have clean : ∀ part ∈ init ++ [last], part ≠ [] ∧ '/' ∉ part :=
      fun part h => ⟨fun empty => filled (empty ▸ h), noSlash part h⟩
    have reached := spells.afterDots (searched_afterDots dots) clean
    rw [← List.append_assoc] at reached
    have silent : ∀ part ∈ root.parts, isSilent part = true := fun part h => by
      rw [dots part h]
      rfl
    rw [reached.relative speaks whole nonempty dots, List.append_assoc,
      List.dropWhile_append_of_pos silent, relativeParts_of_nonempty filled]

end

end SwiftStyle.Path
