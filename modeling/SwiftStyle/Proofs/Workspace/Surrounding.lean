import SwiftStyle.Proofs.Path.Absolute

/-!
The directory that a path is in. It is spelled by the path without its last step, and for a path
that leads to a file it is the directory that holds the file.
-/

namespace SwiftStyle

namespace Path

theorem parts_ofParts {parts : List (List Char)} (nonempty : parts ≠ [])
    (noSlash : ∀ part ∈ parts, '/' ∉ part) : (ofParts parts).parts = parts := by
  rw [Path.parts, ofParts, String.toList_ofList]
  exact split_intercalate nonempty noSlash

theorem text_ne_of_parts {path : Path} (parts : path.parts ≠ [[]]) : path.text ≠ "" := by
  obtain ⟨text⟩ := path
  rintro rfl
  exact parts (by decide +kernel)

theorem isAbsolute_iff_of_parts {path : Path} {first : List Char} {rest : List (List Char)}
    (nonempty : path.text ≠ "") (parts : path.parts = first :: rest) :
    path.isAbsolute = true ↔ first = [] := by
  obtain ⟨rest', stem, -⟩ := exists_stem nonempty parts
  exact isAbsolute_iff nonempty stem

/-- The directory that a path is in, as the path spells it. A name alone is in the one where one
is. -/
def surrounding (path : Path) : Path :=
  match path.parent? with
  | some parent => if parent.text.isEmpty then ⟨"."⟩ else parent
  | none => ⟨"."⟩

theorem exists_trimEnd (parts : List (List Char)) :
    ∃ silent, parts = trimEnd parts ++ silent ∧ ∀ part ∈ silent, isSilent part = true := by
  refine ⟨(parts.reverse.takeWhile isSilent).reverse, ?_, ?_⟩
  · rw [trimEnd, ← List.reverse_append, List.takeWhile_append_dropWhile, List.reverse_reverse]
  · intro part mem
    exact List.all_eq_true.mp List.all_takeWhile part (List.mem_reverse.mp mem)

theorem surrounding_of_single {path : Path} {last : List Char} (parts : path.parts = [last])
    (speaks : isSilent last = false) : path.surrounding = ⟨"."⟩ := by
  have filled : last.isEmpty = false := (Bool.or_eq_false_iff.mp speaks).1
  have parent : path.parent? = some ⟨""⟩ := by
    unfold parent?
    simp [parts, trimEnd, filled]
  rw [surrounding, parent]
  rfl

theorem parent?_of_parts {path : Path} {first last : List Char} {middle : List (List Char)}
    (parts : path.parts = first :: (middle ++ [last])) (speaks : isSilent last = false) :
    path.parent? = if first.isEmpty && (trimEnd middle).isEmpty then some ⟨"/"⟩
      else some (ofParts (first :: trimEnd middle)) := by
  unfold parent?
  simp only [parts, trimEnd_concat speaks, List.dropLast_concat]
  exact if_neg (by simp)

/-- The surrounding of a path with several parts is the root, or has all parts but the last and
those that say nothing before it. -/
theorem surrounding_of_parts {path : Path} {first last : List Char} {middle : List (List Char)}
    (parts : path.parts = first :: (middle ++ [last])) (speaks : isSilent last = false) :
    (first = [] ∧ trimEnd middle = [] ∧ path.surrounding = ⟨"/"⟩) ∨
      path.surrounding.text ≠ "" ∧ path.surrounding.parts = first :: trimEnd middle := by
  rw [surrounding, parent?_of_parts parts speaks]
  by_cases root : first.isEmpty && (trimEnd middle).isEmpty
  · left
    rw [if_pos root]
    rw [Bool.and_eq_true, List.isEmpty_iff, List.isEmpty_iff] at root
    exact ⟨root.1, root.2, rfl⟩
  · right
    rw [if_neg root]
    have clean : ∀ part ∈ first :: trimEnd middle, '/' ∉ part := by
      obtain ⟨silent, whole, -⟩ := exists_trimEnd middle
      intro part mem
      have spoken : part ∈ path.parts := by
        rw [parts, whole, ← List.cons_append]
        exact List.mem_append_left _ (List.mem_append_left _ mem)
      exact not_mem_of_mem_split spoken
    have spelled := parts_ofParts (List.cons_ne_nil _ _) clean
    have filled : (ofParts (first :: trimEnd middle)).text ≠ "" := by
      apply text_ne_of_parts
      rw [spelled]
      intro single
      rw [List.cons.injEq] at single
      exact root (by simp [single])
    have shown : (ofParts (first :: trimEnd middle)).text.isEmpty = false := by simpa using filled
    dsimp only
    rw [shown, if_neg Bool.false_ne_true]
    exact ⟨filled, spelled⟩

end Path

namespace Workspace

variable {w : Workspace} {path : Path} {location next : List String} {name : String}
  {parts : List (List Char)}

theorem follow_silent (silent : ∀ part ∈ parts, Path.isSilent part = true)
    (h : follow w.tree location parts = .ok next) : next = location := by
  have spoken := follow_filter h
  rw [List.filter_eq_nil_iff.mpr fun part mem => by simp [silent part mem]] at spoken
  exact (Except.ok.inj spoken).symm

/-- What says nothing at the end of a path can be left out. -/
theorem follow_trimEnd {first : List Char}
    (h : follow w.tree location (first :: parts) = .ok next) :
    follow w.tree location (first :: Path.trimEnd parts) = .ok next := by
  obtain ⟨silent, whole, isSilent⟩ := Path.exists_trimEnd parts
  rw [whole, ← List.cons_append] at h
  obtain ⟨middle, front, stays⟩ := follow_append_iff.mp h
  rwa [follow_silent isSilent stays]

theorem exists_directory_above {below : FileTree}
    (found : w.tree.find? (location ++ [name]) = some below) :
    ∃ entries, w.tree.find? location = some (.directory entries) := by
  rw [FileTree.find?_concat] at found
  obtain ⟨tree, above, entry⟩ := Option.bind_eq_some_iff.mp found
  cases tree with
  | file content => cases entry
  | directory entries => exact ⟨entries, above⟩

/-- A path that leads to a file takes its last step to it by name. -/
theorem exists_last_of_file {content : Content}
    (there : w.locate path = .ok (location ++ [name]))
    (file : w.tree.find? (location ++ [name]) = some (.file content)) :
    ∃ front last, path.parts = front ++ [last] ∧ Path.isSilent last = false ∧
      follow w.tree (w.startOf path) front = .ok location := by
  obtain ⟨-, whole⟩ := locate_eq_ok_iff.mp there
  obtain ⟨front, last, parts⟩ : ∃ front last, path.parts = front ++ [last] :=
    ⟨_, _, (List.dropLast_concat_getLast (Path.split_ne_nil _)).symm⟩
  refine ⟨front, last, parts, ?_⟩
  rw [parts] at whole
  obtain ⟨middle, leads, step⟩ := follow_append_iff.mp whole
  obtain ⟨entries, directory, taken⟩ := follow_singleton_iff.mp step
  split at taken
  · -- the file would be the directory that the step starts in
    rw [taken, directory] at file
    cases file
  · next speaks =>
    split at taken
    · -- the file would be the directory above
      obtain ⟨entries, above⟩ : ∃ entries,
          w.tree.find? middle.dropLast = some (.directory entries) := by
        rcases List.eq_nil_or_concat middle with rfl | ⟨outer, inner, rfl⟩
        · exact ⟨entries, directory⟩
        · rw [List.concat_eq_append] at directory ⊢
          rw [List.dropLast_concat]
          exact exists_directory_above directory
      rw [taken, above] at file
      cases file
    · obtain ⟨rfl, -⟩ := List.append_inj' taken.2 rfl
      exact ⟨Bool.eq_false_iff.mpr speaks, leads⟩

/-- A path that leads to a file is in the directory that holds it. -/
theorem locate_surrounding (there : w.locate path = .ok (location ++ [name]))
    (file : w.tree.IsFile (location ++ [name])) : w.locate path.surrounding = .ok location := by
  obtain ⟨content, file⟩ := file
  have nonempty := nonempty_of_locate there
  obtain ⟨entries, directory⟩ := exists_directory_above file
  obtain ⟨front, last, parts, speaks, leads⟩ := exists_last_of_file there file
  cases front with
  | nil =>
    have filled : last ≠ [] := fun empty => by simp [empty, Path.isSilent] at speaks
    have relative := mt (Path.isAbsolute_iff_of_parts nonempty parts).mp filled
    obtain rfl : w.startOf path = location := Except.ok.inj leads
    rw [startOf, if_neg relative] at directory ⊢
    rw [Path.surrounding_of_single parts speaks]
    exact locate_here directory
  | cons first middle =>
    have absolute := Path.isAbsolute_iff_of_parts nonempty parts
    have trimmed := follow_trimEnd leads
    rcases Path.surrounding_of_parts parts speaks with ⟨empty, silent, root⟩ | ⟨filled, spelled⟩
    · rw [empty, silent, startOf, if_pos (absolute.mpr empty)] at trimmed
      have stays := follow_silent (by decide) trimmed
      rw [root]
      rw [stays] at directory ⊢
      exact locate_root directory
    · have same : w.startOf path.surrounding = w.startOf path := by
        simp only [startOf, Path.isAbsolute_iff_of_parts filled spelled, absolute]
      rw [locate_eq_ok_iff, same, spelled]
      exact ⟨filled, trimmed⟩

end Workspace

end SwiftStyle
