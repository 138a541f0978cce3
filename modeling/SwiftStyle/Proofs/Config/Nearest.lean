import Mathlib.Data.List.Induction
import SwiftStyle.Config.Source
import SwiftStyle.Proofs.Workspace.Surrounding

/-!
Which configuration file governs a path. A file of a project is looked for in the directory of the
path and upwards from there: the nearest directory that has one decides, and in it the first of the
two names.
-/

namespace SwiftStyle.ConfigSource

variable {w : Workspace} {path : Path} {home location : List String} {name : String}

/-- Where the configuration of a path is looked for first: in the path itself if it leads to a
directory, else in the directory that it is in. -/
inductive StartsAt (w : Workspace) (path : Path) (home : List String) : Prop
  | itself {entries : List (String × FileTree)} :
      w.locate path = .ok home → w.tree.find? home = some (.directory entries) →
      StartsAt w path home
  | around {entries : List (String × FileTree)} : w.isDirectory path = false →
      w.locate path.surrounding = .ok home → w.tree.find? home = some (.directory entries) →
      StartsAt w path home

theorem searchStart_eq (w : Workspace) (path : Path) :
    searchStart w path = w.canonical (if w.isDirectory path then path else path.surrounding) := by
  unfold searchStart Path.surrounding
  split
  · rfl
  · cases path.parent? <;> rfl

theorem StartsAt.searchStart_eq (starts : StartsAt w path home) :
    searchStart w path = Workspace.pathTo home := by
  rw [ConfigSource.searchStart_eq]
  cases starts with
  | itself leads directory =>
    rw [if_pos (Workspace.isDirectory_iff.mpr ⟨home, _, leads, directory⟩), Workspace.canonical,
      leads]
  | around other leads directory =>
    rw [other, if_neg Bool.false_ne_true, Workspace.canonical, leads]

theorem StartsAt.isName (starts : StartsAt w path home) (wellNamed : w.tree.WellNamed) :
    ∀ name ∈ home, Path.IsName name.toList := by
  apply wellNamed.isName_of_find?
  cases starts with
  | itself _ directory => rw [directory]; rfl
  | around _ _ directory => rw [directory]; rfl

/-- The search for a file starts in the directory that holds it. -/
theorem startsAt_of_file (there : w.locate path = .ok (location ++ [name]))
    (file : w.tree.IsFile (location ++ [name])) : StartsAt w path location := by
  have held := Workspace.locate_surrounding there file
  obtain ⟨content, found⟩ := file
  obtain ⟨entries, directory⟩ := Workspace.exists_directory_above found
  refine .around (Bool.eq_false_iff.mpr fun isDirectory => ?_) held directory
  obtain ⟨other, entries, there', directory⟩ := Workspace.isDirectory_iff.mp isDirectory
  obtain rfl := Except.ok.inj (there.symm.trans there')
  rw [found] at directory
  cases directory

/-! The files that are tried, directory by directory. -/

/-- Whether a configuration file is the nearest one that is found upwards from a location. -/
structure IsNearest (tree : FileTree) (home location : List String) (name : String) : Prop where
  above : location <+: home
  known : name ∈ projectNames
  isFile : tree.IsFile (location ++ [name])
  nearest : ∀ inner, inner <+: home → location.length < inner.length →
    ∀ other ∈ projectNames, ¬tree.IsFile (inner ++ [other])
  first : name = ".style-lint.toml" → ¬tree.IsFile (location ++ ["style-lint.toml"])

theorem IsNearest.unique {tree : FileTree} {location' : List String} {name' : String}
    (h : IsNearest tree home location name) (h' : IsNearest tree home location' name') :
    location = location' ∧ name = name' := by
  have notShorter : ¬location.length < location'.length := fun deeper =>
    h.nearest location' h'.above deeper name' h'.known h'.isFile
  have notLonger : ¬location'.length < location.length := fun deeper =>
    h'.nearest location h.above deeper name h.known h.isFile
  have same : location.length = location'.length := by omega
  have within := List.prefix_of_prefix_length_le h.above h'.above (Nat.le_of_eq same)
  obtain rfl := within.eq_of_length same
  refine ⟨rfl, ?_⟩
  have known := h.known
  have known' := h'.known
  simp only [projectNames, List.mem_cons, List.not_mem_nil, or_false] at known known'
  rcases known with rfl | rfl <;> rcases known' with rfl | rfl
  · rfl
  · exact absurd h.isFile (h'.first rfl)
  · exact absurd h'.isFile (h.first rfl)
  · rfl

theorem isName_of_mem_projectNames (known : name ∈ projectNames) : Path.IsName name.toList := by
  simp only [projectNames, List.mem_cons, List.not_mem_nil, or_false] at known
  rcases known with rfl | rfl <;> decide

theorem isName_concat (names : ∀ other ∈ location, Path.IsName other.toList)
    (known : name ∈ projectNames) : ∀ other ∈ location ++ [name], Path.IsName other.toList := by
  apply List.forall_mem_append.mpr ⟨names, ?_⟩
  simpa using isName_of_mem_projectNames known

theorem find?_projectNames {p : Path}
    (names : ∀ other ∈ location, Path.IsName other.toList) :
    (projectNames.map (Workspace.pathTo location).join).find? w.isFile = some p ↔
      ∃ name ∈ projectNames, w.tree.IsFile (location ++ [name]) ∧
        (name = ".style-lint.toml" → ¬w.tree.IsFile (location ++ ["style-lint.toml"])) ∧
        p = Workspace.pathTo (location ++ [name]) := by
  have plain : "style-lint.toml" ∈ projectNames := by decide
  have hidden : ".style-lint.toml" ∈ projectNames := by decide
  have isFile {name : String} (known : name ∈ projectNames) :
      w.isFile (Workspace.pathTo (location ++ [name])) = true ↔
        w.tree.IsFile (location ++ [name]) :=
    Workspace.isFile_pathTo_iff (by simp) (isName_concat names known)
  rw [projectNames, List.map_cons, List.map_cons, List.map_nil,
    Workspace.join_pathTo (isName_concat names plain),
    Workspace.join_pathTo (isName_concat names hidden)]
  simp only [List.mem_cons, List.not_mem_nil, or_false, exists_eq_or_imp, exists_eq_left,
    List.find?_cons, List.find?_nil]
  by_cases first : w.tree.IsFile (location ++ ["style-lint.toml"])
  · rw [(isFile plain).mpr first]
    simp [first, eq_comm]
  · rw [Bool.eq_false_iff.mpr (mt (isFile plain).mp first)]
    by_cases second : w.tree.IsFile (location ++ [".style-lint.toml"])
    · rw [(isFile hidden).mpr second]
      simp [first, second, eq_comm]
    · rw [Bool.eq_false_iff.mpr (mt (isFile hidden).mp second)]
      simp [first, second]

/-- The nearest file is in the innermost directory, or that one has none and it is the nearest from
the directory above. -/
theorem isNearest_concat_iff {tree : FileTree} {inner : String} :
    IsNearest tree (home ++ [inner]) location name ↔
      (location = home ++ [inner] ∧ name ∈ projectNames ∧ tree.IsFile (location ++ [name]) ∧
        (name = ".style-lint.toml" → ¬tree.IsFile (location ++ ["style-lint.toml"]))) ∨
      (∀ other ∈ projectNames, ¬tree.IsFile (home ++ [inner] ++ [other])) ∧
        IsNearest tree home location name := by
  constructor
  · intro h
    rcases List.prefix_concat_iff.mp h.above with same | above
    · exact .inl ⟨same, h.known, h.isFile, h.first⟩
    · have shorter : location.length < (home ++ [inner]).length := by
        rw [List.length_append]
        exact Nat.lt_succ_of_le above.length_le
      refine .inr ⟨h.nearest _ (List.prefix_refl _) shorter, above, h.known, h.isFile, ?_, h.first⟩
      intro between below deeper
      exact h.nearest between (below.trans (List.prefix_append _ _)) deeper
  · rintro (⟨rfl, known, isFile, first⟩ | ⟨none, h⟩)
    · refine ⟨List.prefix_refl _, known, isFile, fun between below deeper => ?_, first⟩
      exact absurd below.length_le (Nat.not_le.mpr deeper)
    · refine ⟨h.above.trans (List.prefix_append _ _), h.known, h.isFile, ?_, h.first⟩
      intro between below deeper
      rcases List.prefix_concat_iff.mp below with rfl | below
      · exact none
      · exact h.nearest between below deeper

/-- The search finds the nearest file. -/
theorem find?_candidates {p : Path} (names : ∀ name ∈ home, Path.IsName name.toList) :
    ((Workspace.pathTo home).ancestors.flatMap fun directory =>
        projectNames.map directory.join).find? w.isFile = some p ↔
      ∃ location name, IsNearest w.tree home location name ∧
        p = Workspace.pathTo (location ++ [name]) := by
  induction home using List.reverseRecOn with
  | nil =>
    rw [Workspace.ancestors_pathTo_nil, List.flatMap_singleton, find?_projectNames names]
    constructor
    · rintro ⟨name, known, isFile, first, same⟩
      refine ⟨[], name, ⟨List.prefix_refl _, known, isFile, fun inner below deeper => ?_, first⟩,
        same⟩
      exact absurd below.length_le (Nat.not_le.mpr deeper)
    · rintro ⟨location, name, h, same⟩
      obtain rfl := List.prefix_nil.mp h.above
      exact ⟨name, h.known, h.isFile, h.first, same⟩
  | append_singleton home inner ih =>
    have above := (List.forall_mem_append.mp names).1
    rw [Workspace.ancestors_pathTo_concat names, List.flatMap_cons, List.find?_append,
      Option.or_eq_some_iff, find?_projectNames names, ih above]
    have none_iff : (projectNames.map (Workspace.pathTo (home ++ [inner])).join).find? w.isFile =
        none ↔ ∀ other ∈ projectNames, ¬w.tree.IsFile (home ++ [inner] ++ [other]) := by
      rw [List.find?_eq_none, List.forall_mem_map]
      refine forall₂_congr fun other known => ?_
      rw [Workspace.join_pathTo (isName_concat names known),
        Workspace.isFile_pathTo_iff (by simp) (isName_concat names known)]
    rw [none_iff]
    simp only [isNearest_concat_iff]
    constructor
    · rintro (⟨name, known, isFile, first, same⟩ | ⟨none, location, name, h, same⟩)
      · exact ⟨_, name, .inl ⟨rfl, known, isFile, first⟩, same⟩
      · exact ⟨location, name, .inr ⟨none, h⟩, same⟩
    · rintro ⟨location, name, ⟨rfl, known, isFile, first⟩ | ⟨none, h⟩, same⟩
      · exact .inl ⟨name, known, isFile, first, same⟩
      · exact .inr ⟨none, location, name, h, same⟩

theorem projectFile?_eq_some_iff {p : Path} (starts : StartsAt w path home)
    (wellNamed : w.tree.WellNamed) :
    projectFile? w path = some p ↔ ∃ location name, IsNearest w.tree home location name ∧
      p = Workspace.pathTo (location ++ [name]) := by
  rw [projectFile?, starts.searchStart_eq]
  exact find?_candidates (starts.isName wellNamed)

/-! The sources that are left if there is no such file. -/

/-- Which source governs what is in a directory, given the file named on the command line: that
one, else the nearest file of a project, else the one for all projects, else none. -/
inductive Governs (w : Workspace) (home : List String) : Option Path → ConfigSource → Prop
  | explicit (file : Path) : Governs w home (some file) (explicit file)
  | project {location : List String} {name : String} : IsNearest w.tree home location name →
      Governs w home none (project (Workspace.pathTo (location ++ [name])))
  | global {directory : Path} : (∀ location name, ¬IsNearest w.tree home location name) →
      w.configDirectory = some directory → w.isFile (directory.join "config.toml") = true →
      Governs w home none (global (directory.join "config.toml"))
  | default : (∀ location name, ¬IsNearest w.tree home location name) →
      (∀ directory, w.configDirectory = some directory →
        w.isFile (directory.join "config.toml") = false) →
      Governs w home none default

theorem globalFile?_eq_some_iff {p : Path} : globalFile? w = some p ↔
    ∃ directory, w.configDirectory = some directory ∧ p = directory.join "config.toml" ∧
      w.isFile p = true := by
  rw [globalFile?, Option.filter_eq_some_iff, Option.map_eq_some_iff]
  constructor
  · rintro ⟨⟨directory, given, rfl⟩, isFile⟩
    exact ⟨directory, given, rfl, isFile⟩
  · rintro ⟨directory, given, rfl, isFile⟩
    exact ⟨⟨directory, given, rfl⟩, isFile⟩

theorem Governs.unique {named : Option Path} {source source' : ConfigSource}
    (h : Governs w home named source) (h' : Governs w home named source') : source = source' := by
  cases h with
  | explicit file =>
    cases h'
    rfl
  | project nearest =>
    cases h' with
    | project nearest' =>
      obtain ⟨rfl, rfl⟩ := nearest.unique nearest'
      rfl
    | global none => exact absurd nearest (none _ _)
    | default none => exact absurd nearest (none _ _)
  | global none given isFile =>
    cases h' with
    | project nearest => exact absurd nearest (none _ _)
    | global _ given' =>
      obtain rfl := Option.some.inj (given.symm.trans given')
      rfl
    | default _ missing =>
      rw [missing _ given] at isFile
      cases isFile
  | default none missing =>
    cases h' with
    | project nearest => exact absurd nearest (none _ _)
    | global _ given isFile =>
      rw [missing _ given] at isFile
      cases isFile
    | default => rfl

theorem governs_locate (starts : StartsAt w path home) (wellNamed : w.tree.WellNamed)
    (named : Option Path) : Governs w home named (locate w named path) := by
  unfold locate
  cases named with
  | some file => exact .explicit file
  | none =>
    cases found : projectFile? w path with
    | some p =>
      obtain ⟨location, name, nearest, rfl⟩ :=
        (projectFile?_eq_some_iff starts wellNamed).mp found
      exact .project nearest
    | none =>
      have none : ∀ location name, ¬IsNearest w.tree home location name := by
        intro location name nearest
        rw [(projectFile?_eq_some_iff starts wellNamed).mpr ⟨location, name, nearest, rfl⟩] at found
        cases found
      cases forAll : globalFile? w with
      | some p =>
        obtain ⟨directory, given, rfl, isFile⟩ := globalFile?_eq_some_iff.mp forAll
        exact .global none given isFile
      | none =>
        refine .default none fun directory given => Bool.eq_false_iff.mpr fun isFile => ?_
        rw [globalFile?_eq_some_iff.mpr ⟨directory, given, rfl, isFile⟩] at forAll
        cases forAll

/-- Every path has one source, that of the directory in which the search starts. -/
theorem locate_eq_iff_governs {named : Option Path} {source : ConfigSource}
    (starts : StartsAt w path home) (wellNamed : w.tree.WellNamed) :
    locate w named path = source ↔ Governs w home named source := by
  have governs := governs_locate starts wellNamed named
  exact ⟨fun same => same ▸ governs, governs.unique⟩

end SwiftStyle.ConfigSource
