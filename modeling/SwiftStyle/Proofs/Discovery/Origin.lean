import SwiftStyle.Proofs.Discovery.Directories
import SwiftStyle.Proofs.Discovery.Found
import SwiftStyle.Proofs.Path.Bare

/-!
Where the files of a run come from: each makes the steps of a path of the command line, as far as a
search keeps them, and then those by which it is below it. So whether two files are taken for one is
settled by how the paths are spelled.
-/

namespace SwiftStyle

/-- The steps that the files of a path begin with: those of a file, and of a directory those that a
search keeps. -/
def Workspace.leadIn (w : Workspace) (path : Path) : List Path.Component :=
  if w.isFile path then path.components else path.bare

/-- Whether a path leads to something below another one, and is spelled so. -/
def Workspace.GoesOn (w : Workspace) (given path : Path) : Prop :=
  ∃ location names, w.locate given = .ok location ∧ w.locate path = .ok (location ++ names) ∧
    path.components = w.leadIn given ++ names.map .name

namespace Workspace

variable {w : Workspace} {path : Path} {tree : FileTree} {location next : List String}
  {parts : List (List Char)}

/-- Without a step up, parts lead down by names. -/
theorem exists_names_of_follow (h : follow tree location parts = .ok next)
    (there : (tree.find? location).isSome = true) (noSlash : ∀ part ∈ parts, '/' ∉ part)
    (noUp : ['.', '.'] ∉ parts) :
    ∃ names : List String, next = location ++ names ∧ Path.stepsOf parts = names.map .name := by
  have areNames : ∀ part ∈ parts.filter fun part => !Path.isSilent part, Path.IsName part := by
    intro part mem
    obtain ⟨mem, speaks⟩ := List.mem_filter.mp mem
    refine ⟨?_, ?_, ?_, noSlash part mem⟩
    · rintro rfl
      cases speaks
    · rintro rfl
      cases speaks
    · rintro rfl
      exact noUp mem
  refine ⟨_, ((follow_names_iff areNames there).mp (follow_filter h)).1, ?_⟩
  rw [Path.stepsOf, List.map_map]
  apply List.map_congr_left
  intro part mem
  exact if_neg (areNames part mem).notUp

theorem components_ne_of_file {content : Content} (there : w.locate path = .ok location)
    (file : w.tree.find? location = some (.file content)) : path.components ≠ [.here] := by
  intro here
  obtain ⟨nonempty, follows⟩ := locate_eq_ok_iff.mp there
  have relative : ¬path.isAbsolute = true := by
    rw [Path.isAbsolute_iff_mem nonempty, here]
    decide
  obtain ⟨entries, directory⟩ := exists_directory_of_follow (Path.split_ne_nil _) follows
  rw [startOf, if_neg relative, ← location_of_here there here, file] at directory
  cases directory

end Workspace

namespace Discovery

variable {w : Workspace} {config : Config} {root path : Path} {paths found : List Path}
  {patterns : List Glob.Pattern}

/-- Whether a pattern selects only what is below a directory. -/
def StaysBelow (pattern : String) : Prop :=
  ∀ steps, SelectsFile pattern steps → ['.', '.'] ∉ steps

theorem staysBelow_swift : StaysBelow "**/*.swift" := by
  intro steps selects mem
  obtain ⟨names, name, rfl, areNames, -⟩ := selectsFile_swift_iff.mp selects
  exact (areNames _ mem).notUp rfl

/-- What is found in a directory is what steps that an included pattern selects lead to. -/
theorem exists_of_mem_search (named : w.tree.WellNamed) {directory : List String}
    (located : w.locate root = .ok directory) (h : search w config patterns root = .ok found)
    (mem : path ∈ found) :
    ∃ pattern ∈ included config, ∃ steps file, SelectsFile pattern steps ∧
      Glob.Leads w ⟨Path.searched root, directory⟩ steps ⟨path, file⟩ := by
  obtain ⟨isFile, pattern, given, selected, same, mem⟩ := exists_select_of_mem_search h mem
  obtain ⟨goesOn, patterns, steps, file, reads, selects, leads⟩ :=
    Glob.exists_of_mem_select named located same mem isFile
  exact ⟨pattern, given, steps, file, ⟨goesOn, patterns, reads, selects⟩, leads⟩

/-- A file that was found is below a path of the command line, and is spelled so. -/
theorem exists_origin (named : w.tree.WellNamed)
    (below : ∀ pattern ∈ included config, StaysBelow pattern)
    (h : discover w config paths = .ok found) (mem : path ∈ found) :
    ∃ given ∈ paths, w.GoesOn given path := by
  obtain ⟨file, there, content, at_⟩ := Workspace.isFile_iff.mp (isFile_of_discover h mem)
  obtain ⟨patterns, given, inPaths, files, expands, mem⟩ := exists_expand_of_mem_discover h mem
  refine ⟨given, inPaths, ?_⟩
  unfold expand at expands
  split at expands
  · next isFile =>
    obtain rfl := Except.ok.inj expands
    rw [List.mem_singleton.mp mem] at there ⊢
    exact ⟨file, [], there, by rwa [List.append_nil], by simp [Workspace.leadIn, isFile]⟩
  · next notFile =>
    split at expands
    · next isDirectory =>
      obtain ⟨directory, entries, located, found⟩ := Workspace.isDirectory_iff.mp isDirectory
      have nonempty := Workspace.nonempty_of_locate located
      obtain ⟨pattern, inIncluded, steps, file', selects, leads⟩ :=
        exists_of_mem_search named located expands mem
      obtain rfl : file' = file := Except.ok.inj (leads.located.symm.trans there)
      have noUp := below pattern inIncluded steps selects
      obtain ⟨names, rfl, spelled⟩ := Workspace.exists_names_of_follow leads.follows
        (by rw [found]; rfl) selects.noSlash noUp
      refine ⟨directory, names, located, there, ?_⟩
      have noDot := (leads.spells.isStraight selects.noSlash noUp
        Path.isStraight_searched).resolve_left (Workspace.components_ne_of_file there at_)
      rw [Workspace.leadIn, if_neg notFile, ← Path.bare_of_notMem noDot, ← spelled,
        ← Path.bare_searched nonempty]
      exact leads.spells.bare_eq selects.noSlash
    · obtain rfl := Except.ok.inj expands
      exact absurd mem List.not_mem_nil

end Discovery

/-! Paths that lead into each other. -/

namespace Workspace

variable {w : Workspace} {paths : List Path} {path path' given given' : Path}
  {location : List String}

/-- Whether of two paths that lead into each other one goes on where the other one ends. -/
def SpelledAlike (w : Workspace) (paths : List Path) : Prop :=
  ∀ p ∈ paths, ∀ q ∈ paths, ∀ location names, w.locate p = .ok location →
    w.locate q = .ok (location ++ names) → w.leadIn q = w.leadIn p ++ names.map .name

theorem SpelledAlike.components_eq (alike : w.SpelledAlike paths) (mem : given ∈ paths)
    (mem' : given' ∈ paths) (below : w.GoesOn given path) (below' : w.GoesOn given' path')
    (there : w.locate path = .ok location) (there' : w.locate path' = .ok location) :
    path.components = path'.components := by
  -- the names below the outer one of the two are those between them and those below the inner one
  have inner {given given' path path' : Path} (mem : given ∈ paths) (mem' : given' ∈ paths)
      {outside between names names' : List String} (start : w.locate given = .ok outside)
      (start' : w.locate given' = .ok (outside ++ between))
      (same : names = between ++ names')
      (spelled : path.components = w.leadIn given ++ names.map .name)
      (spelled' : path'.components = w.leadIn given' ++ names'.map .name) :
      path.components = path'.components := by
    rw [spelled, spelled', same, alike given mem given' mem' outside between start start',
      List.map_append, List.append_assoc]
  obtain ⟨location₁, names₁, start₁, reached₁, spelled₁⟩ := below
  obtain ⟨location₂, names₂, start₂, reached₂, spelled₂⟩ := below'
  have same := Except.ok.inj ((reached₁.symm.trans there).trans (reached₂.symm.trans there').symm)
  rcases List.append_eq_append_iff.mp same with ⟨between, rfl, rest⟩ | ⟨between, rfl, rest⟩
  · exact inner mem mem' start₁ start₂ rest spelled₁ spelled₂
  · exact (inner mem' mem start₂ start₁ rest spelled₂ spelled₁).symm

/-- A path without a step up spells the names on the way to its location. -/
theorem exists_names_of_locate (there : w.locate path = .ok location)
    (noUp : .up ∉ path.components) : ∃ names, location = w.startOf path ++ names ∧
      path.bare = (if path.isAbsolute then [.root] else []) ++ names.map .name := by
  have nonempty := nonempty_of_locate there
  have follows := follow_stem there
  obtain ⟨entries, directory⟩ := exists_directory_of_follow (Path.stem_ne_nil nonempty) follows
  have noSlash : ∀ part ∈ path.stem, '/' ∉ part := by
    intro part mem
    have inParts : part ∈ path.parts := by
      rcases path.parts_eq_stem_or with same | same
      · rwa [same]
      · rw [same]
        exact List.mem_append_left _ mem
    exact Path.not_mem_of_mem_split inParts
  have noUp' : ['.', '.'] ∉ path.stem := by
    intro mem
    have step : .up ∈ Path.stepsOf path.stem :=
      List.mem_map.mpr ⟨_, List.mem_filter.mpr ⟨mem, rfl⟩, rfl⟩
    rw [Path.stepsOf_stem nonempty] at step
    exact noUp (List.mem_of_mem_filter step)
  obtain ⟨names, reached, spelled⟩ :=
    exists_names_of_follow follows (by rw [directory]; rfl) noSlash noUp'
  exact ⟨names, reached, by rw [Path.bare_eq nonempty, spelled]⟩

/-- Paths are spelled alike if all or none of them are absolute, none goes up, and no dot stands in
front of a file. -/
theorem spelledAlike_of_plain (same : ∀ p ∈ paths, ∀ q ∈ paths, p.isAbsolute = q.isAbsolute)
    (noUp : ∀ path ∈ paths, .up ∉ path.components)
    (noDot : ∀ path ∈ paths, w.isFile path = true → .here ∉ path.components) :
    w.SpelledAlike paths := by
  intro p inPaths q inPaths' location names there there'
  have leadIn_eq : ∀ path ∈ paths, w.leadIn path = path.bare := by
    intro path mem
    unfold leadIn
    split
    · next isFile => exact (Path.bare_of_notMem (noDot path mem isFile)).symm
    · rfl
  obtain ⟨front, rfl, spelled⟩ := exists_names_of_locate there (noUp p inPaths)
  obtain ⟨front', reached, spelled'⟩ := exists_names_of_locate there' (noUp q inPaths')
  rw [startOf, startOf, same p inPaths q inPaths', List.append_assoc] at reached
  rw [leadIn_eq p inPaths, leadIn_eq q inPaths', spelled, spelled',
    ← List.append_cancel_left reached, same p inPaths q inPaths', List.map_append,
    List.append_assoc]

end Workspace

end SwiftStyle
