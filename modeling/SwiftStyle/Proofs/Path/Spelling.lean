import SwiftStyle.Path

/-!
How paths are put together. A path that goes on is spelled with the parts it had and one more; a
slash at its end is taken up by the next part, so that a path is followed by its stem, the parts it
has without an empty one at the end.
-/

namespace SwiftStyle.Path

/-- What an entry of a directory can be called. -/
structure IsName (part : List Char) : Prop where
  nonempty : part ≠ []
  notHere : part ≠ ['.']
  notUp : part ≠ ['.', '.']
  noSlash : '/' ∉ part

instance (part : List Char) : Decidable (IsName part) :=
  decidable_of_iff (part ≠ [] ∧ part ≠ ['.'] ∧ part ≠ ['.', '.'] ∧ '/' ∉ part)
    ⟨fun h => ⟨h.1, h.2.1, h.2.2.1, h.2.2.2⟩, fun h => ⟨h.1, h.2, h.3, h.4⟩⟩

theorem IsName.isSilent {part : List Char} (h : IsName part) : isSilent part = false := by
  simp [Path.isSilent, h.nonempty, h.notHere]

/-! Texts cut at their slashes. -/

theorem split_ne_nil (cs : List Char) : split cs ≠ [] := by
  cases cs with
  | nil => simp [split]
  | cons c cs =>
    unfold split
    split
    · simp
    · split <;> simp

theorem split_slash (cs : List Char) : split ('/' :: cs) = [] :: split cs := by
  obtain ⟨part, parts, whole⟩ := List.exists_cons_of_ne_nil (split_ne_nil cs)
  simp [split, whole]

theorem split_cons {c : Char} (h : c ≠ '/') {cs part : List Char} {parts : List (List Char)}
    (whole : split cs = part :: parts) : split (c :: cs) = (c :: part) :: parts := by
  simp [split, whole, h]

theorem split_append (a b : List Char) : split (a ++ '/' :: b) = split a ++ split b := by
  induction a with
  | nil => exact split_slash b
  | cons c a ih =>
    by_cases slash : c = '/'
    · rw [slash, List.cons_append, split_slash, split_slash, ih, List.cons_append]
    · obtain ⟨part, parts, whole⟩ := List.exists_cons_of_ne_nil (split_ne_nil a)
      have whole' : split (a ++ '/' :: b) = part :: (parts ++ split b) := by
        rw [ih, whole, List.cons_append]
      rw [List.cons_append, split_cons slash whole, split_cons slash whole', List.cons_append]

theorem split_of_not_mem {cs : List Char} (h : '/' ∉ cs) : split cs = [cs] := by
  induction cs with
  | nil => rfl
  | cons c cs ih =>
    rw [List.mem_cons, not_or] at h
    exact split_cons (Ne.symm h.1) (ih h.2)

theorem not_mem_of_mem_split {cs part : List Char} (h : part ∈ split cs) : '/' ∉ part := by
  induction cs generalizing part with
  | nil =>
    rw [split, List.mem_singleton] at h
    rw [h]
    exact List.not_mem_nil
  | cons c cs ih =>
    by_cases slash : c = '/'
    · rw [slash, split_slash] at h
      rcases List.mem_cons.mp h with rfl | h
      · exact List.not_mem_nil
      · exact ih h
    · obtain ⟨first, rest, whole⟩ := List.exists_cons_of_ne_nil (split_ne_nil cs)
      rw [split_cons slash whole] at h
      rcases List.mem_cons.mp h with rfl | h
      · rw [List.mem_cons, not_or]
        exact ⟨Ne.symm slash, ih (by simp [whole])⟩
      · exact ih (by simp [whole, h])

/-- A text with an empty part at its end ends with a slash. -/
theorem getLast?_of_split {cs : List Char} (nonempty : cs ≠ [])
    (h : (split cs).getLast? = some []) : cs.getLast? = some '/' := by
  induction cs with
  | nil => exact absurd rfl nonempty
  | cons c cs ih =>
    by_cases last : cs = []
    · subst last
      by_cases slash : c = '/' <;> simp [split, slash] at h ⊢
    · obtain ⟨d, ds, rfl⟩ := List.exists_cons_of_ne_nil last
      rw [List.getLast?_cons_cons]
      refine ih last ?_
      by_cases slash : c = '/'
      · rw [slash, split_slash] at h
        rwa [List.getLast?_cons_of_ne_nil (split_ne_nil _)] at h
      · obtain ⟨part, parts, cut⟩ := List.exists_cons_of_ne_nil (split_ne_nil (d :: ds))
        rw [split_cons slash cut] at h
        cases parts with
        | nil => simp at h
        | cons second parts => rw [cut]; simpa using h

theorem intercalate_split (cs : List Char) : ['/'].intercalate (split cs) = cs := by
  induction cs with
  | nil => rfl
  | cons c cs ih =>
    obtain ⟨part, parts, whole⟩ := List.exists_cons_of_ne_nil (split_ne_nil cs)
    rw [whole] at ih
    by_cases slash : c = '/'
    · rw [slash, split_slash, whole, List.intercalate_cons_cons, ih]
      rfl
    · rw [split_cons slash whole]
      cases parts with
      | nil => simpa using ih
      | cons second parts =>
        rw [List.intercalate_cons_cons] at ih ⊢
        rw [← ih]
        rfl

@[simp]
theorem ofParts_parts (path : Path) : ofParts path.parts = path := by
  rw [ofParts, parts, intercalate_split, String.ofList_toList]

/-! The stem of a path. -/

/-- The parts of a path without an empty one at the end. -/
def stem (path : Path) : List (List Char) :=
  if path.parts.getLast? = some [] then path.parts.dropLast else path.parts

theorem parts_eq_stem_or (path : Path) :
    path.parts = path.stem ∨ path.parts = path.stem ++ [[]] := by
  unfold stem
  split
  · next last =>
    obtain ⟨front, whole⟩ := List.getLast?_eq_some_iff.mp last
    exact .inr (by rw [whole, List.dropLast_concat])
  · exact .inl rfl

theorem stem_of_parts {path : Path} {parts : List (List Char)} {last : List Char}
    (h : path.parts = parts ++ [last]) :
    path.stem = parts ++ if last = [] then [] else [last] := by
  unfold stem
  rw [h]
  by_cases empty : last = [] <;> simp [empty]

theorem stem_ne_nil {path : Path} (nonempty : path.text ≠ "") : path.stem ≠ [] := by
  intro empty
  have whole := intercalate_split path.text.toList
  rcases path.parts_eq_stem_or with same | same <;> rw [empty, parts] at same
  · exact split_ne_nil _ same
  · rw [same] at whole
    exact nonempty (String.toList_eq_nil_iff.mp whole.symm)

theorem isAbsolute_iff {path : Path} {first : List Char} {rest : List (List Char)}
    (nonempty : path.text ≠ "") (h : path.stem = first :: rest) :
    path.isAbsolute = true ↔ first = [] := by
  obtain ⟨others, whole⟩ : ∃ others, path.parts = first :: others := by
    rcases path.parts_eq_stem_or with same | same
    · exact ⟨rest, same.trans h⟩
    · exact ⟨rest ++ [[]], by rw [same, h, List.cons_append]⟩
  have text : path.text.toList ≠ [] := fun h => nonempty (String.toList_eq_nil_iff.mp h)
  obtain ⟨c, cs, spelled⟩ := List.exists_cons_of_ne_nil text
  obtain ⟨part, parts, cut⟩ := List.exists_cons_of_ne_nil (split_ne_nil cs)
  rw [Path.parts, spelled] at whole
  rw [isAbsolute, spelled]
  by_cases slash : c = '/'
  · rw [slash, split_slash] at whole
    simp [slash, (List.cons.inj whole).1.symm]
  · rw [split_cons slash cut] at whole
    simp [slash, (List.cons.inj whole).1.symm]

section

variable {path : Path} {name : String}

/-- What a path is spelled with after it goes on. -/
theorem parts_join (nonempty : path.text ≠ "") (noSlash : '/' ∉ name.toList) :
    (path.join name).parts = path.stem ++ [name.toList] := by
  have relative : isAbsolute ⟨name⟩ = false := by
    refine Bool.eq_false_iff.mpr fun absolute => noSlash ?_
    exact List.mem_of_head? (by simpa [isAbsolute] using absolute)
  rw [join, if_neg (by simp [relative])]
  by_cases last : path.text.toList.getLast? = some '/'
  · obtain ⟨front, whole⟩ := List.getLast?_eq_some_iff.mp last
    have stem : path.stem = split front := by
      have cut : path.parts = split front ++ [[]] := by
        rw [parts, whole, split_append]
        rfl
      simpa using stem_of_parts cut
    simp [parts, whole, stem, split_append, split_of_not_mem noSlash]
  · have stem : path.stem = path.parts := by
      unfold Path.stem
      refine if_neg fun cut => last (getLast?_of_split ?_ cut)
      exact fun h => nonempty (String.toList_eq_nil_iff.mp h)
    have notEmpty : path.text.isEmpty = false := by simpa using nonempty
    simp [notEmpty, last, parts, stem, split_append, split_of_not_mem noSlash]

theorem join_ne (nonempty : path.text ≠ "") : (path.join name).text ≠ "" := by
  unfold join
  split
  · next absolute =>
    intro empty
    obtain rfl : name = "" := empty
    simp [isAbsolute] at absolute
  · split <;> simp [nonempty]

theorem stem_join (nonempty : path.text ≠ "") (noSlash : '/' ∉ name.toList) :
    (path.join name).stem = path.stem ++ [name.toList].filter fun part => !part.isEmpty := by
  rw [stem_of_parts (parts_join nonempty noSlash)]
  by_cases empty : name.toList = [] <;> simp [empty]

theorem isAbsolute_join (nonempty : path.text ≠ "") (noSlash : '/' ∉ name.toList) :
    (path.join name).isAbsolute = path.isAbsolute := by
  obtain ⟨first, rest, whole⟩ := List.exists_cons_of_ne_nil (stem_ne_nil nonempty)
  have longer : (path.join name).stem = first :: (rest ++ [name.toList].filter
      fun part => !part.isEmpty) := by
    rw [stem_join nonempty noSlash, whole, List.cons_append]
  rw [Bool.eq_iff_iff, isAbsolute_iff nonempty whole, isAbsolute_iff (join_ne nonempty) longer]

end

/-! The steps of a path, and of paths that go on. -/

@[simp]
theorem stepsOf_append (a b : List (List Char)) : stepsOf (a ++ b) = stepsOf a ++ stepsOf b := by
  simp [stepsOf]

theorem stepsOf_cons {part : List Char} (speaks : isSilent part = false)
    (parts : List (List Char)) : stepsOf (part :: parts) = componentOf part :: stepsOf parts := by
  simp [stepsOf, speaks]

theorem stepsOf_cons_of_silent {part : List Char} (silent : isSilent part = true)
    (parts : List (List Char)) : stepsOf (part :: parts) = stepsOf parts := by
  simp [stepsOf, silent]

theorem stepsOf_of_silent {parts : List (List Char)} (silent : ∀ part ∈ parts, isSilent part) :
    stepsOf parts = [] := by
  rw [stepsOf, List.filter_eq_nil_iff.mpr fun part h => by simp [silent part h], List.map_nil]

theorem stepsOf_filter (parts : List (List Char)) :
    stepsOf (parts.filter fun part => !part.isEmpty) = stepsOf parts := by
  rw [stepsOf, stepsOf, List.filter_filter]
  congr 1
  refine List.filter_congr fun part _ => ?_
  cases part <;> simp [isSilent]

/-- The stem of a path makes the same steps as all its parts. -/
theorem exists_stem {path : Path} {first : List Char} {rest : List (List Char)}
    (nonempty : path.text ≠ "") (parts : path.parts = first :: rest) :
    ∃ rest', path.stem = first :: rest' ∧ stepsOf rest' = stepsOf rest := by
  rcases path.parts_eq_stem_or with same | same
  · exact ⟨rest, same.symm.trans parts, rfl⟩
  · obtain ⟨other, rest', cut⟩ := List.exists_cons_of_ne_nil (stem_ne_nil nonempty)
    rw [parts, cut, List.cons_append] at same
    obtain ⟨rfl, rfl⟩ := List.cons.inj same
    exact ⟨rest', cut, by rw [stepsOf_append]; simp [stepsOf, isSilent]⟩

theorem components_eq {path : Path} {first : List Char} {rest : List (List Char)}
    (nonempty : path.text ≠ "") (h : path.stem = first :: rest) :
    path.components = if first = [] then .root :: stepsOf rest
      else if first = ['.'] then .here :: stepsOf rest else stepsOf (first :: rest) := by
  obtain ⟨others, whole, same⟩ : ∃ others, path.parts = first :: others ∧
      stepsOf others = stepsOf rest := by
    rcases path.parts_eq_stem_or with same | same
    · exact ⟨rest, same.trans h, rfl⟩
    · exact ⟨rest ++ [[]], by rw [same, h, List.cons_append], by simp [stepsOf, isSilent]⟩
  have absolute := isAbsolute_iff nonempty h
  have all : stepsOf (first :: others) = stepsOf (first :: rest) := by
    rw [← List.singleton_append, stepsOf_append, same, ← stepsOf_append, List.singleton_append]
  unfold components
  rw [whole]
  simp only [same, all]
  by_cases root : first = [] <;> simp [root, absolute]

theorem componentOf_injective : Function.Injective componentOf := by
  intro a b same
  unfold componentOf at same
  split at same
  · next up =>
    split at same
    · next up' => rw [up, up']
    · cases same
  · split at same
    · cases same
    · exact String.ofList_injective (Component.name.inj same)

theorem componentOf_ne (part : List Char) :
    componentOf part ≠ .root ∧ componentOf part ≠ .here := by
  unfold componentOf
  split <;> simp

theorem not_mem_stepsOf (parts : List (List Char)) :
    .root ∉ stepsOf parts ∧ .here ∉ stepsOf parts := by
  constructor
  · intro h
    obtain ⟨part, -, same⟩ := List.mem_map.mp h
    exact (componentOf_ne part).1 same
  · intro h
    obtain ⟨part, -, same⟩ := List.mem_map.mp h
    exact (componentOf_ne part).2 same

theorem isAbsolute_iff_mem {path : Path} (nonempty : path.text ≠ "") :
    path.isAbsolute = true ↔ .root ∈ path.components := by
  obtain ⟨first, rest, stem⟩ := List.exists_cons_of_ne_nil (stem_ne_nil nonempty)
  rw [isAbsolute_iff nonempty stem, components_eq nonempty stem]
  by_cases root : first = []
  · simp [root]
  · by_cases here : first = ['.'] <;> simp [root, here, not_mem_stepsOf]

/-- The steps of a path after where it starts. -/
theorem stepsOf_stem {path : Path} (nonempty : path.text ≠ "") :
    stepsOf path.stem = path.components.filter fun c => c != .root && c != .here := by
  obtain ⟨first, rest, stem⟩ := List.exists_cons_of_ne_nil (stem_ne_nil nonempty)
  have kept : ∀ parts, (stepsOf parts).filter (fun c => c != .root && c != .here) =
      stepsOf parts := by
    intro parts
    refine List.filter_eq_self.mpr fun c h => ?_
    have isRoot : c ≠ .root := fun same => (not_mem_stepsOf parts).1 (same ▸ h)
    have isHere : c ≠ .here := fun same => (not_mem_stepsOf parts).2 (same ▸ h)
    simp [isRoot, isHere]
  rw [components_eq nonempty stem, stem]
  by_cases root : first = []
  · rw [if_pos root, stepsOf_cons_of_silent (by simp [isSilent, root]),
      List.filter_cons_of_neg (by simp), kept]
  by_cases here : first = ['.']
  · rw [if_neg root, if_pos here, stepsOf_cons_of_silent (by simp [isSilent, here]),
      List.filter_cons_of_neg (by simp), kept]
  · rw [if_neg root, if_neg here, kept]

/-- A path leads to where one is exactly if it is a dot and says nothing more. -/
theorem components_eq_here_iff {path : Path} {first : List Char} {rest : List (List Char)}
    (nonempty : path.text ≠ "") (h : path.stem = first :: rest) :
    path.components = [.here] ↔ first = ['.'] ∧ ∀ part ∈ rest, isSilent part = true := by
  rw [components_eq nonempty h]
  by_cases root : first = []
  · simp [root]
  by_cases here : first = ['.']
  · simp [here, stepsOf, List.filter_eq_nil_iff]
  · have speaks : isSilent first = false := by simp [isSilent, root, here]
    simp [root, here, stepsOf, speaks, (componentOf_ne first).2]

theorem partsAfter_append {ps : List (List Char)} {n : Nat} (h : (stepsOf ps).length = n)
    (more : List (List Char)) : partsAfter n (ps ++ more) = more.dropWhile isSilent := by
  induction ps generalizing n with
  | nil =>
    obtain rfl : n = 0 := h.symm
    rfl
  | cons part ps ih =>
    rw [← List.singleton_append, stepsOf_append, List.length_append] at h
    by_cases silent : isSilent part = true
    · have shorter := ih (n := n) (by simpa [stepsOf, silent] using h)
      cases n with
      | zero => simpa [partsAfter, silent] using shorter
      | succ n => simpa [partsAfter, silent] using shorter
    · obtain ⟨m, rfl⟩ : ∃ m, n = m + 1 := ⟨(stepsOf ps).length, by
        rw [← h]
        simp [stepsOf, silent, Nat.add_comm]⟩
      have shorter := ih (n := m) (by simp [stepsOf, silent] at h ⊢; omega)
      simpa [partsAfter, silent] using shorter

theorem trimEnd_concat {front : List (List Char)} {last : List Char}
    (speaks : isSilent last = false) : trimEnd (front ++ [last]) = front ++ [last] := by
  simp [trimEnd, speaks]

end SwiftStyle.Path
