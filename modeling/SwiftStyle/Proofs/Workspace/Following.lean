import Mathlib.Data.List.Basic
import SwiftStyle.Proofs.Path.Spelling
import SwiftStyle.Workspace

/-!
Where paths lead. A path is followed part by part, so what a longer path leads to is what its last
part leads to from where the shorter one does. Two paths that make the same steps lead to one
location, if they lead anywhere.
-/

namespace SwiftStyle

namespace FileTree

/-- Whether there is a file at a location. -/
def IsFile (tree : FileTree) (location : List String) : Prop :=
  ∃ content, tree.find? location = some (.file content)

mutual

/-- Whether every entry of a tree has a name of its own in its directory. -/
def WellNamed : FileTree → Prop
  | file _ => True
  | directory entries => (entries.map Prod.fst).Nodup ∧ WellNamedIn entries

def WellNamedIn : List (String × FileTree) → Prop
  | [] => True
  | (name, tree) :: rest => Path.IsName name.toList ∧ WellNamed tree ∧ WellNamedIn rest

end

theorem WellNamedIn.of_mem {entries : List (String × FileTree)} (h : WellNamedIn entries)
    {entry : String × FileTree} (mem : entry ∈ entries) :
    Path.IsName entry.1.toList ∧ entry.2.WellNamed := by
  induction entries with
  | nil => exact absurd mem List.not_mem_nil
  | cons first rest ih =>
    rcases List.mem_cons.mp mem with rfl | mem
    · exact ⟨h.1, h.2.1⟩
    · exact ih h.2.2 mem

theorem mem_of_lookup {entries : List (String × FileTree)} {name : String} {tree : FileTree}
    (h : entries.lookup name = some tree) : (name, tree) ∈ entries := by
  induction entries with
  | nil => simp at h
  | cons first rest ih =>
    obtain ⟨known, other⟩ := first
    rw [List.lookup_cons] at h
    split at h
    · next same =>
      cases h
      rw [eq_of_beq same]
      exact List.mem_cons_self
    · exact List.mem_cons_of_mem _ (ih h)

theorem lookup_of_mem {entries : List (String × FileTree)} (distinct : (entries.map Prod.fst).Nodup)
    {name : String} {tree : FileTree} (h : (name, tree) ∈ entries) :
    entries.lookup name = some tree := by
  induction entries with
  | nil => exact absurd h List.not_mem_nil
  | cons first rest ih =>
    obtain ⟨known, other⟩ := first
    obtain ⟨fresh, distinct⟩ := List.nodup_cons.mp distinct
    rw [List.lookup_cons]
    rcases List.mem_cons.mp h with same | h
    · cases same
      simp
    · have different : (name == known) = false :=
        beq_eq_false_iff_ne.mpr fun same => fresh (List.mem_map.mpr ⟨(name, tree), h, same⟩)
      rw [different]
      exact ih distinct h

theorem find?_append (tree : FileTree) (a b : List String) :
    tree.find? (a ++ b) = (tree.find? a).bind (find? b) := by
  induction a generalizing tree with
  | nil => rfl
  | cons name names ih =>
    rw [List.cons_append, find?, find?, Option.bind_assoc]
    congr 1
    funext below
    exact ih below

theorem find?_concat (tree : FileTree) (location : List String) (name : String) :
    tree.find? (location ++ [name]) =
      (tree.find? location).bind fun below => below.entries.lookup name := by
  rw [find?_append]
  congr 1
  funext below
  rw [find?]
  cases below.entries.lookup name <;> rfl

theorem WellNamed.of_find? {tree below : FileTree} {location : List String} (h : tree.WellNamed)
    (found : tree.find? location = some below) : below.WellNamed := by
  induction location generalizing tree with
  | nil =>
    cases found
    exact h
  | cons name names ih =>
    obtain ⟨next, hnext, deeper⟩ := Option.bind_eq_some_iff.mp found
    cases tree with
    | file content => simp [entries] at hnext
    | directory entries => exact ih (h.2.of_mem (mem_of_lookup hnext)).2 deeper

theorem WellNamed.isName_of_find? {tree : FileTree} {location : List String} (h : tree.WellNamed)
    (found : (tree.find? location).isSome = true) : ∀ name ∈ location, Path.IsName name.toList := by
  induction location generalizing tree with
  | nil => simp
  | cons name names ih =>
    obtain ⟨below, found⟩ := Option.isSome_iff_exists.mp found
    obtain ⟨next, known, deeper⟩ := Option.bind_eq_some_iff.mp found
    cases tree with
    | file content => cases known
    | directory entries =>
      obtain ⟨isName, named⟩ := h.2.of_mem (mem_of_lookup known)
      exact List.forall_mem_cons.mpr ⟨isName, ih named (by rw [deeper]; rfl)⟩

theorem WellNamed.isName_below {tree : FileTree} {location names : List String} (h : tree.WellNamed)
    (found : (tree.find? (location ++ names)).isSome = true) :
    ∀ name ∈ names, Path.IsName name.toList :=
  (List.forall_mem_append.mp (h.isName_of_find? found)).2

end FileTree

namespace Workspace

section

variable {tree : FileTree} {location next : List String} {part : List Char}
  {parts : List (List Char)}

theorem follow_append_iff {a b : List (List Char)} :
    follow tree location (a ++ b) = .ok next ↔
      ∃ middle, follow tree location a = .ok middle ∧ follow tree middle b = .ok next := by
  induction a generalizing location with
  | nil => simp [follow]
  | cons part parts ih =>
    rw [List.cons_append, follow, follow]
    split
    · simp
    · simp
    · split
      · exact ih
      · split
        · exact ih
        · dsimp only
          split
          · exact ih
          · simp

theorem follow_cons_iff :
    follow tree location (part :: parts) = .ok next ↔
      ∃ middle, follow tree location [part] = .ok middle ∧ follow tree middle parts = .ok next := by
  rw [← List.singleton_append, follow_append_iff]

/-- One step stays, goes up or goes down, always from a directory. -/
theorem follow_singleton_iff :
    follow tree location [part] = .ok next ↔
      ∃ entries, tree.find? location = some (.directory entries) ∧
        if Path.isSilent part then next = location
        else if part = ['.', '.'] then next = location.dropLast
        else (entries.lookup (String.ofList part)).isSome ∧
          next = location ++ [String.ofList part] := by
  rw [follow]
  split
  · next missing => simp [missing]
  · next content found => simp [found]
  · next entries found =>
    simp only [found, Option.some.injEq, FileTree.directory.injEq, follow]
    split
    · simp [eq_comm]
    · split
      · simp [eq_comm]
      · split
        · next below known =>
          simp only [exists_eq_left', known, Option.isSome_some, true_and, Except.ok.injEq]
          exact eq_comm
        · next unknown =>
          simp only [exists_eq_left', unknown, Option.isSome_none, Bool.false_eq_true, false_and,
            reduceCtorEq]

/-- A step by a name leads to the entry of that name. -/
theorem follow_name_iff (isName : Path.IsName part) :
    follow tree location [part] = .ok next ↔
      next = location ++ [String.ofList part] ∧ (tree.find? next).isSome := by
  rw [follow_singleton_iff]
  simp only [isName.isSilent, Bool.false_eq_true, if_false, isName.notUp]
  constructor
  · rintro ⟨entries, found, known, rfl⟩
    refine ⟨rfl, ?_⟩
    rw [FileTree.find?_concat, found]
    exact known
  · rintro ⟨rfl, known⟩
    rw [FileTree.find?_concat] at known
    cases found : tree.find? location with
    | none => simp [found] at known
    | some below =>
      rw [found, Option.bind_some] at known
      cases below with
      | file content => simp [FileTree.entries] at known
      | directory entries => exact ⟨entries, rfl, known, rfl⟩

theorem isSome_find?_dropLast (h : (tree.find? location).isSome) :
    (tree.find? location.dropLast).isSome := by
  rcases List.eq_nil_or_concat location with rfl | ⟨front, name, rfl⟩
  · exact h
  · rw [List.concat_eq_append, FileTree.find?_append] at h
    rw [List.concat_eq_append, List.dropLast_concat]
    cases found : tree.find? front with
    | none => simp [found] at h
    | some below => rfl

theorem isSome_find?_of_step (h : follow tree location [part] = .ok next) :
    (tree.find? next).isSome := by
  obtain ⟨entries, found, leads⟩ := follow_singleton_iff.mp h
  split at leads
  · rw [leads, found]
    rfl
  · split at leads
    · rw [leads]
      exact isSome_find?_dropLast (by rw [found]; rfl)
    · rw [leads.2, FileTree.find?_concat, found]
      exact leads.1

theorem exists_directory_of_follow (nonempty : parts ≠ [])
    (h : follow tree location parts = .ok next) :
    ∃ entries, tree.find? location = some (.directory entries) := by
  obtain ⟨part, rest, rfl⟩ := List.exists_cons_of_ne_nil nonempty
  obtain ⟨middle, step, -⟩ := follow_cons_iff.mp h
  obtain ⟨entries, found, -⟩ := follow_singleton_iff.mp step
  exact ⟨entries, found⟩

/-- What a path leads to is there. -/
theorem isSome_find?_of_follow (nonempty : parts ≠ [])
    (h : follow tree location parts = .ok next) : (tree.find? next).isSome := by
  obtain ⟨init, last, rfl⟩ : ∃ init last, parts = init ++ [last] :=
    ⟨_, _, (List.dropLast_concat_getLast nonempty).symm⟩
  obtain ⟨middle, -, step⟩ := follow_append_iff.mp h
  exact isSome_find?_of_step step

/-- Names lead to the entry below that they name. -/
theorem follow_names_iff (names : ∀ part ∈ parts, Path.IsName part)
    (there : (tree.find? location).isSome) :
    follow tree location parts = .ok next ↔
      next = location ++ parts.map String.ofList ∧ (tree.find? next).isSome := by
  induction parts generalizing location with
  | nil =>
    simp only [follow, Except.ok.injEq, List.map_nil, List.append_nil, eq_comm (a := location)]
    exact ⟨fun same => ⟨same, same ▸ there⟩, fun h => h.1⟩
  | cons part parts ih =>
    obtain ⟨isName, names⟩ := List.forall_mem_cons.mp names
    rw [follow_cons_iff]
    constructor
    · rintro ⟨middle, step, rest⟩
      obtain ⟨rfl, there⟩ := (follow_name_iff isName).mp step
      obtain ⟨rfl, there⟩ := (ih names there).mp rest
      exact ⟨by simp, there⟩
    -- what is above something that is there is there too, and a directory
    · rintro ⟨rfl, known⟩
      have middle : (tree.find? (location ++ [String.ofList part])).isSome := by
        rw [List.map_cons, ← List.singleton_append, ← List.append_assoc,
          FileTree.find?_append] at known
        cases found : tree.find? (location ++ [String.ofList part]) with
        | none => simp [found] at known
        | some below => rfl
      refine ⟨_, (follow_name_iff isName).mpr ⟨rfl, middle⟩, (ih names middle).mpr ⟨?_, known⟩⟩
      simp

/-- After a part that says nothing one is still in a directory. -/
theorem exists_directory_of_silent (silent : Path.isSilent part = true)
    (h : follow tree location (parts ++ [part]) = .ok next) :
    ∃ entries, tree.find? next = some (.directory entries) := by
  obtain ⟨middle, -, step⟩ := follow_append_iff.mp h
  obtain ⟨entries, found, stays⟩ := follow_singleton_iff.mp step
  rw [if_pos silent] at stays
  exact ⟨entries, stays ▸ found⟩

/-- Parts that say nothing lead nowhere else. -/
theorem follow_filter (h : follow tree location parts = .ok next) :
    follow tree location (parts.filter fun part => !Path.isSilent part) = .ok next := by
  induction parts generalizing location with
  | nil => exact h
  | cons part parts ih =>
    obtain ⟨middle, step, rest⟩ := follow_cons_iff.mp h
    by_cases silent : Path.isSilent part = true
    · obtain ⟨entries, found, stays⟩ := follow_singleton_iff.mp step
      rw [if_pos silent] at stays
      rw [List.filter_cons_of_neg (by simp [silent])]
      exact ih (stays ▸ rest)
    · rw [List.filter_cons_of_pos (by simp [silent]), follow_cons_iff]
      exact ⟨middle, step, ih rest⟩

end

/-! Where a path leads, and the paths that go on from it. -/

section

variable {w : Workspace} {path : Path} {location next : List String} {part : List Char}

theorem locate_eq_ok_iff : w.locate path = .ok location ↔
    path.text ≠ "" ∧ follow w.tree (w.startOf path) path.parts = .ok location := by
  unfold locate
  by_cases empty : path.text = ""
  · simp [empty]
  · have filled : path.text.isEmpty = false := by simpa using empty
    simp [filled, empty]

theorem nonempty_of_locate (h : w.locate path = .ok location) : path.text ≠ "" :=
  (locate_eq_ok_iff.mp h).1

theorem isSome_find?_of_locate (h : w.locate path = .ok location) :
    (w.tree.find? location).isSome :=
  isSome_find?_of_follow (Path.split_ne_nil _) (locate_eq_ok_iff.mp h).2

theorem isFile_iff : w.isFile path = true ↔
    ∃ location, w.locate path = .ok location ∧ w.tree.IsFile location := by
  unfold isFile get
  cases found : w.locate path with
  | error e => simp [bind, Except.bind]
  | ok location =>
    simp only [bind, Except.bind, Except.ok.injEq, exists_eq_left', FileTree.IsFile]
    cases at_ : w.tree.find? location with
    | none => simp
    | some tree => cases tree <;> simp [pure, Except.pure]

theorem isDirectory_iff : w.isDirectory path = true ↔
    ∃ location entries, w.locate path = .ok location ∧
      w.tree.find? location = some (.directory entries) := by
  unfold isDirectory get
  cases found : w.locate path with
  | error e => simp [bind, Except.bind]
  | ok location =>
    simp only [bind, Except.bind, Except.ok.injEq]
    cases at_ : w.tree.find? location with
    | none => simp [at_]
    | some tree => cases tree <;> simp [pure, Except.pure, at_]

theorem follow_stem (h : w.locate path = .ok location) :
    follow w.tree (w.startOf path) path.stem = .ok location := by
  have whole := (locate_eq_ok_iff.mp h).2
  rcases path.parts_eq_stem_or with same | same
  · rwa [same] at whole
  · rw [same] at whole
    obtain ⟨middle, front, step⟩ := follow_append_iff.mp whole
    obtain ⟨entries, -, stays⟩ := follow_singleton_iff.mp step
    have silent : Path.isSilent [] = true := rfl
    rw [if_pos silent] at stays
    rwa [stays]

/-- A path that leads to a file does not end with a slash. -/
theorem parts_eq_stem_of_file {content : Content} (h : w.locate path = .ok location)
    (file : w.tree.find? location = some (.file content)) : path.parts = path.stem := by
  refine path.parts_eq_stem_or.resolve_right fun ends => ?_
  have whole := (locate_eq_ok_iff.mp h).2
  rw [ends] at whole
  obtain ⟨entries, directory⟩ := exists_directory_of_silent rfl whole
  simp [file] at directory

theorem locate_root {entries : List (String × FileTree)}
    (found : w.tree.find? [] = some (.directory entries)) : w.locate ⟨"/"⟩ = .ok [] := by
  have parts : (Path.mk "/").parts = [[], []] := by decide +kernel
  have absolute : (Path.mk "/").isAbsolute = true := by decide +kernel
  rw [locate_eq_ok_iff, parts, startOf, if_pos absolute]
  simp [follow, found, Path.isSilent]

theorem locate_here {entries : List (String × FileTree)}
    (found : w.tree.find? w.directory = some (.directory entries)) :
    w.locate ⟨"."⟩ = .ok w.directory := by
  have parts : (Path.mk ".").parts = [['.']] := by decide +kernel
  have relative : (Path.mk ".").isAbsolute = false := by decide +kernel
  rw [locate_eq_ok_iff, parts, startOf, relative]
  simp [follow, found, Path.isSilent]

theorem locate_join_iff (h : w.locate path = .ok location) (noSlash : '/' ∉ part) :
    w.locate (path.join (String.ofList part)) = .ok next ↔
      follow w.tree location [part] = .ok next := by
  have nonempty := nonempty_of_locate h
  have clean : '/' ∉ (String.ofList part).toList := by rwa [String.toList_ofList]
  have same : w.startOf (path.join (String.ofList part)) = w.startOf path := by
    rw [startOf, startOf, Path.isAbsolute_join nonempty clean]
  have front := follow_stem h
  rw [locate_eq_ok_iff, same, Path.parts_join nonempty clean, String.toList_ofList,
    follow_append_iff]
  constructor
  · rintro ⟨-, middle, reached, step⟩
    rw [front] at reached
    cases reached
    exact step
  · exact fun step => ⟨Path.join_ne nonempty, location, front, step⟩

/-- Where one is oneself, a path is only a name. -/
theorem locate_ofList_iff (nonempty : part ≠ []) (noSlash : '/' ∉ part) :
    w.locate ⟨String.ofList part⟩ = .ok next ↔ follow w.tree w.directory [part] = .ok next := by
  have filled : String.ofList part ≠ "" := by simpa [String.ext_iff] using nonempty
  have relative : Path.isAbsolute ⟨String.ofList part⟩ = false := by
    refine Bool.eq_false_iff.mpr fun absolute => noSlash ?_
    exact List.mem_of_head? (by simpa [Path.isAbsolute] using absolute)
  rw [locate_eq_ok_iff, startOf, relative, Path.parts, String.toList_ofList,
    Path.split_of_not_mem noSlash]
  simp [filled]

theorem location_of_here (h : w.locate path = .ok location) (here : path.components = [.here]) :
    location = w.directory := by
  have nonempty := nonempty_of_locate h
  obtain ⟨first, rest, stem⟩ := List.exists_cons_of_ne_nil (Path.stem_ne_nil nonempty)
  obtain ⟨rfl, silent⟩ := (Path.components_eq_here_iff nonempty stem).mp here
  have relative : path.isAbsolute = false :=
    Bool.eq_false_iff.mpr fun h => by simpa using (Path.isAbsolute_iff nonempty stem).mp h
  have reached := follow_filter (follow_stem h)
  rw [stem, List.filter_eq_nil_iff.mpr, startOf, relative] at reached
  · simpa [follow, eq_comm] using reached
  · exact List.forall_mem_cons.mpr ⟨by simp [Path.isSilent], fun part h => by simp [silent part h]⟩

theorem locate_entry_iff (h : w.locate path = .ok location) (noSlash : '/' ∉ part)
    (filled : part ≠ [] ∨ path.components ≠ [.here]) :
    w.locate (path.entry (String.ofList part)) = .ok next ↔
      follow w.tree location [part] = .ok next := by
  unfold Path.entry
  split
  · next here =>
    rw [locate_ofList_iff (filled.resolve_right (· here)) noSlash, location_of_here h here]
  · exact locate_join_iff h noSlash

theorem filled_of_locate_entry (h : w.locate (path.entry (String.ofList part)) = .ok next) :
    part ≠ [] ∨ path.components ≠ [.here] := by
  refine Decidable.or_iff_not_not_and_not.mpr ?_
  rintro ⟨empty, here⟩
  rw [Decidable.not_not] at empty here
  refine nonempty_of_locate h ?_
  rw [Path.entry, if_pos here, empty]

/-- Paths that make the same steps lead to one location. -/
theorem location_eq_of_components {path' : Path} (same : path.components = path'.components)
    (h : w.locate path = .ok location) (h' : w.locate path' = .ok next) : location = next := by
  have nonempty := nonempty_of_locate h
  have nonempty' := nonempty_of_locate h'
  have start : w.startOf path = w.startOf path' := by
    have absolute : path.isAbsolute = path'.isAbsolute := by
      rw [Bool.eq_iff_iff, Path.isAbsolute_iff_mem nonempty, Path.isAbsolute_iff_mem nonempty',
        same]
    rw [startOf, startOf, absolute]
  have spoken : (path.stem.filter fun part => !Path.isSilent part) =
      path'.stem.filter fun part => !Path.isSilent part := by
    have steps : Path.stepsOf path.stem = Path.stepsOf path'.stem := by
      rw [Path.stepsOf_stem nonempty, Path.stepsOf_stem nonempty', same]
    exact List.map_injective_iff.mpr Path.componentOf_injective steps
  have reached := follow_filter (follow_stem h)
  have reached' := follow_filter (follow_stem h')
  rw [start, spoken, reached'] at reached
  cases reached
  rfl

end

end Workspace

end SwiftStyle
