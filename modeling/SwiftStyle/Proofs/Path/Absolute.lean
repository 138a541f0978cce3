import SwiftStyle.Proofs.Workspace.Following

/-!
Paths from the root. The one that leads to a location spells the names of the location and nothing
else, so its parent leads to the location above, and it goes on by a name to what is below.
-/

namespace SwiftStyle

namespace Path

theorem split_intercalate {parts : List (List Char)} (nonempty : parts ≠ [])
    (noSlash : ∀ part ∈ parts, '/' ∉ part) : split (['/'].intercalate parts) = parts := by
  induction parts with
  | nil => exact absurd rfl nonempty
  | cons part parts ih =>
    obtain ⟨clean, noSlash⟩ := List.forall_mem_cons.mp noSlash
    cases parts with
    | nil =>
      rw [List.intercalate_singleton]
      exact split_of_not_mem clean
    | cons next parts =>
      rw [List.intercalate_cons_cons, List.append_assoc, List.singleton_append, split_append,
        split_of_not_mem clean, ih (List.cons_ne_nil next parts) noSlash, List.singleton_append]

/-- A path is what its parts spell. -/
theorem eq_of_parts {path path' : Path} (same : path.parts = path'.parts) : path = path' := by
  rw [← ofParts_parts path, same, ofParts_parts]

end Path

namespace Workspace

variable {w : Workspace} {location next : List String} {name : String}

theorem text_pathTo_ne (location : List String) : (pathTo location).text ≠ "" := by
  simp [pathTo, String.ext_iff]

theorem parts_pathTo_nil : (pathTo []).parts = [[], []] := by decide +kernel

theorem parts_pathTo (nonempty : location ≠ [])
    (names : ∀ name ∈ location, Path.IsName name.toList) :
    (pathTo location).parts = [] :: location.map String.toList := by
  have spelled : (pathTo location).text.toList =
      '/' :: ['/'].intercalate (location.map String.toList) := by
    rw [pathTo, String.toList_append, String.toList_intercalate]
    rfl
  rw [Path.parts, spelled, Path.split_slash, Path.split_intercalate]
  · simpa using nonempty
  · exact List.forall_mem_map.mpr fun name mem => (names name mem).noSlash

theorem stem_pathTo (names : ∀ name ∈ location, Path.IsName name.toList) :
    (pathTo location).stem = [] :: location.map String.toList := by
  rcases List.eq_nil_or_concat location with rfl | ⟨front, name, rfl⟩
  · have parts : (pathTo []).parts = [[]] ++ [[]] := parts_pathTo_nil
    exact Path.stem_of_parts parts
  · rw [List.concat_eq_append] at names ⊢
    have last : name.toList ≠ [] := (names name (by simp)).nonempty
    have parts := parts_pathTo (by simp) names
    rw [List.map_append, ← List.cons_append] at parts
    rw [Path.stem_of_parts parts, if_neg last, List.map_append, List.cons_append]
    rfl

theorem components_pathTo (names : ∀ name ∈ location, Path.IsName name.toList) :
    (pathTo location).components = .root :: location.map .name := by
  rw [Path.components_eq (text_pathTo_ne location) (stem_pathTo names), if_pos rfl]
  congr 1
  induction location with
  | nil => rfl
  | cons name location ih =>
    obtain ⟨isName, names⟩ := List.forall_mem_cons.mp names
    rw [List.map_cons, Path.stepsOf_cons isName.isSilent, ih names, Path.componentOf,
      if_neg isName.notUp, String.ofList_toList, List.map_cons]

theorem pathTo_isSame_iff {location' : List String}
    (names : ∀ name ∈ location, Path.IsName name.toList)
    (names' : ∀ name ∈ location', Path.IsName name.toList) :
    (pathTo location).isSame (pathTo location') = true ↔ location = location' := by
  have injective : Function.Injective Path.Component.name := fun _ _ => Path.Component.name.inj
  rw [Path.isSame, beq_iff_eq, components_pathTo names, components_pathTo names', List.cons.injEq,
    injective.list_map.eq_iff]
  exact and_iff_right rfl

/-! Up and down from a location. -/

theorem trimEnd_names (names : ∀ name ∈ location, Path.IsName name.toList) :
    Path.trimEnd (location.map String.toList) = location.map String.toList := by
  rcases List.eq_nil_or_concat location with rfl | ⟨front, name, rfl⟩
  · rfl
  · rw [List.concat_eq_append] at names ⊢
    rw [List.map_append]
    exact Path.trimEnd_concat (names name (by simp)).isSilent

theorem parent?_pathTo_concat
    (names : ∀ other ∈ location ++ [name], Path.IsName other.toList) :
    (pathTo (location ++ [name])).parent? = some (pathTo location) := by
  have above := (List.forall_mem_append.mp names).1
  have body : (location ++ [name]).map String.toList ≠ [] := by simp
  unfold Path.parent?
  rw [parts_pathTo (by simp) names]
  simp only [trimEnd_names names, List.isEmpty_iff, body, if_false, List.isEmpty_nil,
    Bool.true_and]
  rw [← List.map_dropLast, List.dropLast_concat, trimEnd_names above]
  by_cases empty : location = []
  · rw [empty]
    decide +kernel
  · rw [if_neg (by simpa using empty), ← parts_pathTo empty above, Path.ofParts_parts]

theorem ancestors_pathTo_nil : (pathTo []).ancestors = [pathTo []] := by decide +kernel

theorem ancestors_pathTo_concat
    (names : ∀ other ∈ location ++ [name], Path.IsName other.toList) :
    (pathTo (location ++ [name])).ancestors =
      pathTo (location ++ [name]) :: (pathTo location).ancestors := by
  have above := (List.forall_mem_append.mp names).1
  have length : (pathTo (location ++ [name])).components.length =
      (pathTo location).components.length + 1 := by
    rw [components_pathTo names, components_pathTo above]
    simp
  rw [Path.ancestors, length, Path.parentsUpTo, parent?_pathTo_concat names]
  rfl

theorem join_pathTo (names : ∀ other ∈ location ++ [name], Path.IsName other.toList) :
    (pathTo location).join name = pathTo (location ++ [name]) := by
  obtain ⟨above, last⟩ := List.forall_mem_append.mp names
  apply Path.eq_of_parts
  rw [Path.parts_join (text_pathTo_ne location) (last name (by simp)).noSlash, stem_pathTo above,
    parts_pathTo (by simp) names, List.map_append, List.cons_append]
  rfl

/-- The path to a location leads there, if there is anything. -/
theorem locate_pathTo_iff (nonempty : location ≠ [])
    (names : ∀ name ∈ location, Path.IsName name.toList) :
    w.locate (pathTo location) = .ok next ↔
      next = location ∧ (w.tree.find? location).isSome := by
  have absolute : (pathTo location).isAbsolute = true :=
    (Path.isAbsolute_iff (text_pathTo_ne location) (stem_pathTo names)).mpr rfl
  have areNames : ∀ part ∈ location.map String.toList, Path.IsName part :=
    List.forall_mem_map.mpr names
  have silent : Path.isSilent [] = true := rfl
  have spelled : (location.map String.toList).map String.ofList = location := by simp
  rw [locate_eq_ok_iff, startOf, if_pos absolute, parts_pathTo nonempty names, follow_cons_iff]
  constructor
  · rintro ⟨-, middle, step, down⟩
    obtain ⟨entries, root, stays⟩ := follow_singleton_iff.mp step
    rw [if_pos silent] at stays
    rw [stays, follow_names_iff areNames (by rw [root]; rfl), spelled, List.nil_append] at down
    exact ⟨down.1, down.1 ▸ down.2⟩
  · rintro ⟨rfl, there⟩
    obtain ⟨first, rest, rfl⟩ := List.exists_cons_of_ne_nil nonempty
    -- there is something below the root, so it is a directory
    obtain ⟨entries, root⟩ : ∃ entries, w.tree.find? [] = some (.directory entries) := by
      cases tree : w.tree with
      | directory entries => exact ⟨entries, rfl⟩
      | file content => simp [tree, FileTree.find?, FileTree.entries] at there
    have stays : follow w.tree [] [[]] = .ok [] := by simp [follow, root, silent]
    refine ⟨text_pathTo_ne _, [], stays, ?_⟩
    rw [follow_names_iff areNames (by rw [root]; rfl), spelled]
    exact ⟨rfl, there⟩

theorem isFile_pathTo_iff (nonempty : location ≠ [])
    (names : ∀ name ∈ location, Path.IsName name.toList) :
    w.isFile (pathTo location) = true ↔ w.tree.IsFile location := by
  rw [isFile_iff]
  constructor
  · rintro ⟨next, leads, isFile⟩
    rwa [((locate_pathTo_iff nonempty names).mp leads).1] at isFile
  · rintro ⟨content, found⟩
    exact ⟨location, (locate_pathTo_iff nonempty names).mpr ⟨rfl, by rw [found]; rfl⟩,
      content, found⟩

end Workspace

end SwiftStyle
