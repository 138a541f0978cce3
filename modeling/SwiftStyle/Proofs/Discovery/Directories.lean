import SwiftStyle.Discovery
import SwiftStyle.Proofs.Glob.Directory
import SwiftStyle.Proofs.Path.Order

/-!
Which files a run looks at. What is taken from a directory is said by the steps from it, so that it
does not depend on how the directory is spelled. A directory that is spelled with a dot in front of
something else is the exception: searches spell what they find there without the dot, so what is
found does not start with the directory, and patterns for files to leave out see all of its path.
-/

namespace SwiftStyle

namespace Discovery

variable {w : Workspace} {config : Config} {root path : Path} {pattern : String}
  {steps : List (List Char)} {directory file : List String}

/-- Whether a pattern can be read, whole and component by component. -/
def Readable (pattern : String) : Prop :=
  (Glob.parse pattern.toList).isOk = true ∧
    ∀ part ∈ Glob.components pattern.toList, (Glob.parse part).isOk = true

instance (pattern : String) : Decidable (Readable pattern) :=
  inferInstanceAs (Decidable (_ ∧ _))

/-- Whether a configuration has no pattern that cannot be read. -/
structure HasReadablePatterns (config : Config) : Prop where
  excluded : ∀ pattern ∈ config.excluded, (Glob.parse pattern.toList).isOk = true
  included : ∀ pattern ∈ included config, Readable pattern

instance (config : Config) : Decidable (HasReadablePatterns config) :=
  decidable_of_iff (_ ∧ _) ⟨fun h => ⟨h.1, h.2⟩, fun h => ⟨h.1, h.2⟩⟩

/-- Whether a pattern selects steps as the way to a file. One that ends with a slash is for
directories. -/
def SelectsFile (pattern : String) (steps : List (List Char)) : Prop :=
  ('/' :: pattern.toList).getLast? ≠ some '/' ∧
    ∃ patterns, (Glob.components pattern.toList).mapM Glob.parse = .ok patterns ∧
      Glob.Selects (Glob.collapse patterns) steps

/-- Whether no excluded pattern accepts a path. -/
def Remains (config : Config) (relative : String) : Prop :=
  ∀ pattern ∈ config.excluded, ∀ whole, Glob.parse pattern.toList = .ok whole →
    Glob.accepts whole relative.toList = false

/-- Whether a run takes a file for a location: a file for itself, and from a directory the files
that an included pattern selects there and no excluded pattern accepts, by their paths from the
directory. -/
def Takes (tree : FileTree) (config : Config) (location file : List String) : Prop :=
  tree.IsFile file ∧ (file = location ∨ ∃ steps,
    (∃ pattern ∈ included config, SelectsFile pattern steps) ∧
      Workspace.follow tree location steps = .ok file ∧
      Remains config (Path.ofParts (Path.relativeParts steps)).text)

/-- Whether a directory is spelled so that its files are found, and are told apart by where they are
below it. Behind a dot in front, nothing may be empty; and if there are patterns for files to leave
out, nothing but dots may follow. -/
def IsPlain (config : Config) (root : Path) : Prop :=
  root.parts.head? ≠ some ['.'] ∨ [] ∉ root.parts ∧
    (∀ pattern ∈ included config, [] ∉ Glob.components pattern.toList) ∧
    ((∀ part ∈ root.parts, part = ['.']) ∨ config.excluded = [])

instance (config : Config) (root : Path) : Decidable (IsPlain config root) :=
  inferInstanceAs (Decidable (_ ∨ _))

theorem SelectsFile.noSlash (h : SelectsFile pattern steps) : ∀ part ∈ steps, '/' ∉ part := by
  obtain ⟨-, patterns, reads, selects⟩ := h
  intro part mem
  rcases selects.isName_or_admits part mem with isName | ⟨component, mem, admits⟩
  · exact isName.noSlash
  · exact admits.noSlash (Glob.isComponent_of_mem reads component mem)

theorem SelectsFile.nil_notMem (h : SelectsFile pattern steps)
    (filled : [] ∉ Glob.components pattern.toList) : [] ∉ steps := by
  obtain ⟨-, patterns, reads, selects⟩ := h
  intro mem
  rcases selects.isName_or_admits [] mem with isName | ⟨component, mem, accepted, allowed⟩
  · exact isName.nonempty rfl
  · rcases allowed with literal | isName | ⟨-, dot | dots⟩
    · obtain ⟨text, found⟩ := Option.isSome_iff_exists.mp literal
      rw [Glob.accepts_of_literal? found, decide_eq_true_eq] at accepted
      rw [← accepted] at found
      exact filled (Glob.mem_components_of_literal? reads mem found)
    · exact isName.nonempty rfl
    · cases dot
    · cases dots

/-! Without included patterns. -/

/-- What the names of Swift files end with. -/
def swiftEnding : Glob.Pattern := ".swift".toList.map .character

/-- The pattern for Swift files selects names of which the last ends as those of Swift files do. -/
theorem selectsFile_swift_iff : SelectsFile "**/*.swift" steps ↔ ∃ names name,
    steps = names ++ [name] ∧ (∀ part ∈ names ++ [name], Path.IsName part) ∧
      ".swift".toList <:+ name := by
  have reads : (Glob.components "**/*.swift".toList).mapM Glob.parse =
      .ok [[.anyDirectories], .anyRun :: swiftEnding] := eq_ok_of_toOption (by decide +kernel)
  have literal : Glob.literal? swiftEnding = some ".swift".toList := by decide +kernel
  have fixed : Glob.collapse [[.anyDirectories], .anyRun :: swiftEnding] =
      [[.anyDirectories], .anyRun :: swiftEnding] := by decide +kernel
  constructor
  · rintro ⟨-, patterns, reads', selects⟩
    obtain rfl := Except.ok.inj (reads'.symm.trans reads)
    rw [fixed] at selects
    cases selects with
    | component other => exact absurd rfl other
    | anywhere names accepted selects =>
      cases selects
      exact ⟨_, _, List.append_nil _, names, (Glob.accepts_anyRun_iff literal _).mp accepted⟩
  · rintro ⟨names, name, rfl, areNames, ends⟩
    refine ⟨by decide, _, reads, ?_⟩
    rw [fixed, ← List.append_nil (names ++ [name])]
    exact .anywhere areNames ((Glob.accepts_anyRun_iff literal name).mpr ends) .done

/-- Without included patterns a run takes from a directory the files below it that are called as
Swift files are, unless an excluded pattern accepts the names on the way to them. -/
theorem takes_iff_of_included_nil {tree : FileTree} {entries : List (String × FileTree)}
    (named : tree.WellNamed) (isDirectory : tree.find? directory = some (.directory entries))
    (none : config.included = []) :
    Takes tree config directory file ↔ tree.IsFile file ∧ ∃ names name,
      file = directory ++ (names ++ [name]) ∧ ".swift".toList <:+ name.toList ∧
        Remains config ("/".intercalate (names ++ [name])) := by
  have default : included config = ["**/*.swift"] := by rw [included, none]; rfl
  have there : (tree.find? directory).isSome = true := by rw [isDirectory]; rfl
  have outside : tree.IsFile file → file ≠ directory := by
    rintro ⟨content, isFile⟩ rfl
    rw [isDirectory] at isFile
    cases isFile
  constructor
  · rintro ⟨isFile, same | ⟨steps, ⟨pattern, mem, selects⟩, follows, remains⟩⟩
    · exact absurd same (outside isFile)
    · rw [default, List.mem_singleton] at mem
      obtain ⟨names, name, rfl, areNames, ends⟩ := selectsFile_swift_iff.mp (mem ▸ selects)
      obtain ⟨rfl, -⟩ := (Workspace.follow_names_iff areNames there).mp follows
      refine ⟨isFile, names.map String.ofList, String.ofList name, by simp, by simpa using ends, ?_⟩
      have spelled : String.toList ∘ String.ofList = id := funext fun _ => String.toList_ofList
      rw [Path.relativeParts_of_names areNames] at remains
      rw [← Path.text_ofParts, ← List.map_singleton, ← List.map_append, List.map_map, spelled,
        List.map_id]
      exact remains
  · rintro ⟨isFile, names, name, rfl, ends, remains⟩
    have found : (tree.find? (directory ++ (names ++ [name]))).isSome = true := by
      obtain ⟨content, found⟩ := isFile
      rw [found]
      rfl
    have areNames : ∀ part ∈ (names ++ [name]).map String.toList, Path.IsName part :=
      List.forall_mem_map.mpr (named.isName_below found)
    have spelled : String.ofList ∘ String.toList = id := funext fun _ => String.ofList_toList
    refine ⟨isFile, .inr ⟨(names ++ [name]).map String.toList, ⟨"**/*.swift", ?_, ?_⟩, ?_, ?_⟩⟩
    · rw [default]
      exact List.mem_cons_self
    · refine selectsFile_swift_iff.mpr ⟨names.map String.toList, name.toList, by simp, ?_, ends⟩
      simpa using areNames
    · refine (Workspace.follow_names_iff areNames there).mpr ⟨?_, found⟩
      rw [List.map_map, spelled, List.map_id]
    · rw [Path.relativeParts_of_names areNames, Path.text_ofParts]
      exact remains

/-! One directory. -/

section

variable {entries : List (String × FileTree)} {pattern : String}

/-- What a pattern selects in a directory, by the steps that lead there. -/
theorem exists_selectIn (named : w.tree.WellNamed) (located : w.locate root = .ok directory)
    (plain : root.parts.head? ≠ some ['.'] ∨ [] ∉ root.parts) (readable : Readable pattern) :
    ∃ found, selectIn w root pattern = .ok found ∧
      (∀ path ∈ found, ∃ steps file, SelectsFile pattern steps ∧ w.tree.IsFile file ∧
        Glob.Leads w ⟨Path.searched root, directory⟩ steps ⟨path, file⟩) ∧
      ∀ steps file, SelectsFile pattern steps → w.tree.IsFile file →
        Workspace.follow w.tree directory steps = .ok file →
        [] ∉ steps ∨ (Path.searched root).components ≠ [.here] →
        ∃ path ∈ found, Glob.Leads w ⟨Path.searched root, directory⟩ steps ⟨path, file⟩ := by
  obtain ⟨whole, read⟩ := isOk_iff.mp readable.1
  obtain ⟨patterns, reads, -⟩ := exists_mapM fun part mem => isOk_iff.mp (readable.2 part mem)
  have components := Glob.isComponent_of_mem reads
  have start : ∀ s ∈ [Glob.Spot.mk (Path.searched root) directory],
      w.locate s.path = .ok s.location :=
    List.forall_mem_singleton.mpr (Glob.locate_searched located plain)
  unfold selectIn
  simp only [Glob.select_below named located plain read reads, Except.ok.injEq, exists_eq_left']
  constructor
  · intro path mem
    obtain ⟨mem, isFile⟩ := List.mem_filter.mp mem
    obtain ⟨⟨path, file⟩, found, rfl⟩ := List.mem_map.mp mem
    obtain ⟨location, there, content, at_⟩ := Workspace.isFile_iff.mp isFile
    have reached := Glob.located_of_mem_search named components start found
    obtain rfl : location = file := Except.ok.inj (there.symm.trans reached)
    have noDirectory : Glob.isDirectory w ⟨path, location⟩ = false := by
      rw [Glob.isDirectory, Glob.treeAt, at_]
      rfl
    obtain ⟨only, s, mem, steps, selects, leads⟩ :=
      Glob.exists_of_mem_search named components start found noDirectory
    rw [List.mem_singleton.mp mem] at leads
    exact ⟨steps, location, ⟨of_decide_eq_false only, patterns, reads, selects⟩, ⟨content, at_⟩,
      leads⟩
  · rintro steps file ⟨open_, patterns', reads', selects⟩ isFile follows filled
    obtain rfl : patterns' = patterns := Except.ok.inj (reads'.symm.trans reads)
    obtain ⟨s, found, leads⟩ := Glob.exists_mem_search named components start selects
      List.mem_cons_self filled follows
    obtain rfl : s.location = file := leads.location_eq follows
    refine ⟨s.path, List.mem_filter.mpr ⟨List.mem_map.mpr ⟨s, ?_, rfl⟩, ?_⟩, leads⟩
    · rwa [decide_eq_false open_]
    · exact Workspace.isFile_iff.mpr ⟨s.location, leads.located, isFile⟩

/-- The patterns for files to leave out see the steps from the directory. -/
theorem relative_of_leads (located : w.locate root = .ok directory)
    (isDirectory : w.tree.find? directory = some (.directory entries))
    (plain : root.parts.head? ≠ some ['.'] ∨ (∀ part ∈ root.parts, part = ['.']) ∧ [] ∉ steps)
    (noSlash : ∀ part ∈ steps, '/' ∉ part) (isFile : w.tree.IsFile file)
    (leads : Glob.Leads w ⟨Path.searched root, directory⟩ steps ⟨path, file⟩) :
    (path.after? root).getD path = Path.ofParts (Path.relativeParts steps) := by
  obtain ⟨content, isFile⟩ := isFile
  have follows : Workspace.follow w.tree directory steps = .ok file := leads.follows
  have nonempty : steps ≠ [] := by
    rintro rfl
    obtain rfl : directory = file := Except.ok.inj follows
    rw [isDirectory] at isFile
    cases isFile
  obtain ⟨init, last, rfl⟩ : ∃ init last, steps = init ++ [last] :=
    ⟨_, _, (List.dropLast_concat_getLast nonempty).symm⟩
  have speaks : Path.isSilent last = false := by
    refine Bool.eq_false_iff.mpr fun silent => ?_
    obtain ⟨entries, directory⟩ := Workspace.exists_directory_of_silent silent follows
    rw [directory] at isFile
    cases isFile
  exact Path.relative_eq (Workspace.nonempty_of_locate located) plain leads.spells speaks noSlash
    (Workspace.parts_eq_stem_of_file leads.located isFile)

variable {excluded : List Glob.Pattern}

/-- Whether patterns are those that a configuration writes for files to leave out. -/
def AreExcluded (config : Config) (patterns : List Glob.Pattern) : Prop :=
  ∀ pattern, pattern ∈ patterns ↔
    ∃ text ∈ config.excluded, Glob.parse text.toList = .ok pattern

theorem isExcluded_eq_false_iff (known : AreExcluded config excluded) {relative : Path}
    (same : (path.after? root).getD path = relative ∨ config.excluded = []) :
    isExcluded excluded root path = false ↔ Remains config relative.text := by
  rcases same with same | none
  · rw [isExcluded, same, List.any_eq_false]
    constructor
    · intro none text mem pattern read
      exact Bool.eq_false_iff.mpr (none pattern ((known pattern).mpr ⟨text, mem, read⟩))
    · intro none pattern mem
      obtain ⟨text, mem, read⟩ := (known pattern).mp mem
      exact Bool.eq_false_iff.mp (none text mem pattern read)
  · have nothing : excluded = [] := List.eq_nil_iff_forall_not_mem.mpr fun pattern mem => by
      obtain ⟨text, mem, -⟩ := (known pattern).mp mem
      rw [none] at mem
      exact absurd mem List.not_mem_nil
    simp [isExcluded, nothing, Remains, none]

theorem isExcluded_of_leads (known : AreExcluded config excluded)
    (located : w.locate root = .ok directory)
    (isDirectory : w.tree.find? directory = some (.directory entries))
    (plain : IsPlain config root) (mem : pattern ∈ included config)
    (selects : SelectsFile pattern steps) (isFile : w.tree.IsFile file)
    (leads : Glob.Leads w ⟨Path.searched root, directory⟩ steps ⟨path, file⟩) :
    isExcluded excluded root path = false ↔
      Remains config (Path.ofParts (Path.relativeParts steps)).text := by
  refine isExcluded_eq_false_iff known ?_
  rcases plain with noDot | ⟨-, filled, dots | none⟩
  · exact .inl (relative_of_leads located isDirectory (.inl noDot) selects.noSlash isFile leads)
  · have filled := selects.nil_notMem (filled pattern mem)
    exact .inl (relative_of_leads located isDirectory (.inr ⟨dots, filled⟩) selects.noSlash isFile
      leads)
  · exact .inr none

/-- The search of a directory finds the files that are to be taken from it. -/
theorem exists_search (named : w.tree.WellNamed) (readable : HasReadablePatterns config)
    (known : AreExcluded config excluded) (located : w.locate root = .ok directory)
    (isDirectory : w.tree.find? directory = some (.directory entries))
    (plain : IsPlain config root) :
    ∃ found, search w config excluded root = .ok found ∧ (∀ path ∈ found, w.isFile path = true) ∧
      ∀ file, (∃ path ∈ found, w.locate path = .ok file) ↔ Takes w.tree config directory file := by
  have select : ∀ pattern ∈ included config, _ := fun pattern mem =>
    exists_selectIn named located (plain.imp_right And.left) (readable.included pattern mem)
  obtain ⟨lists, mapped, members⟩ := exists_mapM_flatten fun pattern mem =>
    (select pattern mem).imp fun found h => h.1
  -- whatever is found was selected by a pattern, and is found by the steps that this selects
  have selected : ∀ path ∈ lists.flatten, ∃ pattern ∈ included config, ∃ steps file,
      SelectsFile pattern steps ∧ w.tree.IsFile file ∧
        Glob.Leads w ⟨Path.searched root, directory⟩ steps ⟨path, file⟩ := by
    intro path mem
    obtain ⟨pattern, given, paths, same, mem⟩ := (members path).mp mem
    obtain ⟨paths', same', sound, -⟩ := select pattern given
    obtain rfl : paths' = paths := Except.ok.inj (same'.symm.trans same)
    exact ⟨pattern, given, sound path mem⟩
  refine ⟨lists.flatten.filter fun path => !isExcluded excluded root path, ?_, ?_, ?_⟩
  · rw [search, mapped]
    rfl
  · intro path mem
    obtain ⟨pattern, -, steps, file, -, isFile, leads⟩ := selected path (List.mem_of_mem_filter mem)
    exact Workspace.isFile_iff.mpr ⟨file, leads.located, isFile⟩
  · intro file
    constructor
    · rintro ⟨path, mem, there⟩
      obtain ⟨mem, kept⟩ := List.mem_filter.mp mem
      obtain ⟨pattern, given, steps, file', selects, isFile, leads⟩ := selected path mem
      obtain rfl : file' = file := Except.ok.inj (leads.located.symm.trans there)
      refine ⟨isFile, .inr ⟨steps, ⟨pattern, given, selects⟩, leads.follows, ?_⟩⟩
      rw [Bool.not_eq_true'] at kept
      exact (isExcluded_of_leads known located isDirectory plain given selects isFile leads).mp kept
    · rintro ⟨isFile, same | ⟨steps, ⟨pattern, given, selects⟩, follows, remains⟩⟩
      · obtain ⟨content, isFile⟩ := isFile
        rw [same, isDirectory] at isFile
        cases isFile
      · obtain ⟨paths, same, -, complete⟩ := select pattern given
        have filled := plain.symm.imp (fun dots => selects.nil_notMem (dots.2.1 pattern given))
          (Path.components_searched_ne (Workspace.nonempty_of_locate located))
        obtain ⟨path, mem, leads⟩ := complete steps file selects isFile follows filled
        refine ⟨path, List.mem_filter.mpr ⟨?_, ?_⟩, leads.located⟩
        · exact (members path).mpr ⟨pattern, given, paths, same, mem⟩
        · rw [Bool.not_eq_true']
          exact (isExcluded_of_leads known located isDirectory plain given selects isFile
            leads).mpr remains

end

/-! A whole run. -/

theorem eq_of_follow_of_file {tree : FileTree} (isFile : tree.IsFile directory)
    (h : Workspace.follow tree directory steps = .ok file) : file = directory := by
  by_cases nothing : steps = []
  · rw [nothing] at h
    exact (Except.ok.inj h).symm
  · obtain ⟨entries, found⟩ := Workspace.exists_directory_of_follow nothing h
    obtain ⟨content, isFile⟩ := isFile
    rw [isFile] at found
    cases found

/-- What a path of the command line stands for. -/
theorem exists_expand {excluded : List Glob.Pattern} (named : w.tree.WellNamed)
    (readable : HasReadablePatterns config) (known : AreExcluded config excluded)
    (plain : w.isDirectory root = true → IsPlain config root) :
    ∃ found, expand w config excluded root = .ok found ∧ (∀ path ∈ found, w.isFile path = true) ∧
      ∀ file, (∃ path ∈ found, w.locate path = .ok file) ↔
        ∃ location, w.locate root = .ok location ∧ Takes w.tree config location file := by
  unfold expand
  by_cases isFile : w.isFile root = true
  · obtain ⟨location, there, at_⟩ := Workspace.isFile_iff.mp isFile
    refine ⟨[root], by rw [if_pos isFile], List.forall_mem_singleton.mpr isFile, fun file => ?_⟩
    constructor
    · rintro ⟨path, mem, reached⟩
      rw [List.mem_singleton.mp mem, there] at reached
      cases reached
      exact ⟨location, there, at_, .inl rfl⟩
    · rintro ⟨location', there', -, same | ⟨steps, -, follows, -⟩⟩
      · exact ⟨root, List.mem_cons_self, same ▸ there'⟩
      · obtain rfl : location' = location := Except.ok.inj (there'.symm.trans there)
        exact ⟨root, List.mem_cons_self, eq_of_follow_of_file at_ follows ▸ there⟩
  by_cases isDirectory : w.isDirectory root = true
  · obtain ⟨location, entries, there, at_⟩ := Workspace.isDirectory_iff.mp isDirectory
    obtain ⟨found, searched, files, taken⟩ :=
      exists_search named readable known there at_ (plain isDirectory)
    refine ⟨found, by rw [if_neg isFile, if_pos isDirectory, searched], files, fun file => ?_⟩
    rw [taken file, there]
    simp
  · refine ⟨[], by rw [if_neg isFile, if_neg isDirectory], by simp, fun file => ?_⟩
    constructor
    · rintro ⟨path, mem, -⟩
      exact absurd mem List.not_mem_nil
    · rintro ⟨location, there, -⟩
      obtain ⟨tree, at_⟩ := Option.isSome_iff_exists.mp (Workspace.isSome_find?_of_locate there)
      cases tree with
      | file content =>
        exact absurd (Workspace.isFile_iff.mpr ⟨location, there, content, at_⟩) isFile
      | directory entries =>
        exact absurd (Workspace.isDirectory_iff.mpr ⟨location, entries, there, at_⟩) isDirectory

theorem exists_excluded (readable : HasReadablePatterns config) :
    ∃ patterns, excluded config = .ok patterns ∧ AreExcluded config patterns := by
  have reads : ∀ text ∈ config.excluded, ∃ pattern,
      (Glob.parse text.toList).mapError (PatternError.excluded text) = .ok pattern := by
    intro text mem
    obtain ⟨pattern, reads⟩ := isOk_iff.mp (readable.excluded text mem)
    exact ⟨pattern, mapError_eq_ok_iff.mpr reads⟩
  obtain ⟨patterns, mapped, members⟩ := exists_mapM reads
  refine ⟨patterns, mapped, fun pattern => (members pattern).trans ?_⟩
  simp only [mapError_eq_ok_iff]

theorem discover_singleton {patterns : List Glob.Pattern} {found : List Path}
    (compiled : excluded config = .ok patterns)
    (expanded : expand w config patterns root = .ok found) :
    discover w config [root] = .ok (Path.sorted found) := by
  have mapped : [root].mapM (expand w config patterns) = .ok [found] :=
    mapM_eq_ok_iff.mpr (by rw [List.map_singleton, expanded, List.map_singleton])
  rw [discover, compiled]
  simp only [bind, Except.bind, mapped, List.flatten_singleton]
  rfl

/-- The files of a run are those that are to be taken for the locations that its paths lead to,
whatever the paths are called. -/
theorem discover_takes (named : w.tree.WellNamed) (readable : HasReadablePatterns config)
    {paths : List Path} (plain : ∀ path ∈ paths, w.isDirectory path = true → IsPlain config path) :
    ∃ found, discover w config paths = .ok found ∧ (∀ path ∈ found, w.isFile path = true) ∧
      ∀ file, (∃ path ∈ found, w.locate path = .ok file) ↔ ∃ path ∈ paths, ∃ location,
        w.locate path = .ok location ∧ Takes w.tree config location file := by
  obtain ⟨patterns, compiled, known⟩ := exists_excluded readable
  have expands : ∀ path ∈ paths, _ := fun path mem =>
    exists_expand named readable known (plain path mem)
  obtain ⟨lists, mapped, members⟩ := exists_mapM_flatten fun path mem =>
    (expands path mem).imp fun found h => h.1
  have areFiles : ∀ path ∈ lists.flatten, w.isFile path = true := by
    intro path mem
    obtain ⟨root, given, found, expanded, mem⟩ := (members path).mp mem
    obtain ⟨found', expanded', files, -⟩ := expands root given
    obtain rfl : found' = found := Except.ok.inj (expanded'.symm.trans expanded)
    exact files path mem
  refine ⟨Path.sorted lists.flatten, ?_, fun path mem => areFiles path (Path.mem_of_mem_sorted mem),
    fun file => ?_⟩
  · rw [discover, compiled]
    simp only [bind, Except.bind, mapped]
    rfl
  constructor
  · rintro ⟨path, mem, there⟩
    obtain ⟨root, given, found, expanded, mem⟩ := (members path).mp (Path.mem_of_mem_sorted mem)
    obtain ⟨found', expanded', -, taken⟩ := expands root given
    obtain rfl : found' = found := Except.ok.inj (expanded'.symm.trans expanded)
    exact ⟨root, given, (taken file).mp ⟨path, mem, there⟩⟩
  · rintro ⟨root, given, takes⟩
    obtain ⟨found, expanded, -, taken⟩ := expands root given
    obtain ⟨path, mem, there⟩ := (taken file).mpr takes
    -- sorting may keep another path instead, but one that makes the same steps
    obtain ⟨path', kept, same⟩ :=
      Path.exists_mem_sorted ((members path).mpr ⟨root, given, found, expanded, mem⟩)
    obtain ⟨location, there', -⟩ :=
      Workspace.isFile_iff.mp (areFiles path' (Path.mem_of_mem_sorted kept))
    exact ⟨path', kept, Workspace.location_eq_of_components same there' there ▸ there'⟩

/-- A directory with a generated file beside another one. -/
def generatedBeside : Workspace where
  tree := .directory [("d", .directory [("Gen.swift", .file (.text "let g = 1\n")),
    ("a.swift", .file (.text "let a = 1\n"))])]
  directory := []
  configDirectory := none

/-- A configuration that leaves the generated file out. -/
def withoutGenerated : Config := { Config.default with excluded := ["Gen.swift"] }

theorem discover_takes_detour : generatedBeside.tree.WellNamed ∧
    HasReadablePatterns withoutGenerated ∧ (∀ path ∈ [Path.mk "d/../d/"],
      generatedBeside.isDirectory path = true → IsPlain withoutGenerated path) ∧
    ∃ found, discover generatedBeside withoutGenerated [⟨"d/../d/"⟩] = .ok found ∧
      ∃ path ∈ found, generatedBeside.locate path = .ok ["d", "a.swift"] := by
  have named : generatedBeside.tree.WellNamed := by
    simp only [generatedBeside, FileTree.WellNamed, FileTree.WellNamedIn]
    decide
  have readable : HasReadablePatterns withoutGenerated := by decide +kernel
  have plain : ∀ path ∈ [Path.mk "d/../d/"],
      generatedBeside.isDirectory path = true → IsPlain withoutGenerated path :=
    List.forall_mem_singleton.mpr fun _ => by decide +kernel
  obtain ⟨found, discovered, -, taken⟩ := discover_takes named readable plain
  refine ⟨named, readable, plain, found, discovered, (taken ["d", "a.swift"]).mpr ?_⟩
  have located : generatedBeside.locate ⟨"d/../d/"⟩ = .ok ["d"] :=
    eq_ok_of_toOption (by decide +kernel)
  have entries : generatedBeside.tree.find? ["d"] = some (.directory _) := rfl
  refine ⟨_, List.mem_cons_self, ["d"], located, ?_⟩
  refine (takes_iff_of_included_nil named entries rfl).mpr
    ⟨⟨_, rfl⟩, [], "a.swift", rfl, by decide +kernel, ?_⟩
  intro pattern mem whole read
  rw [List.mem_singleton.mp mem] at read
  have known : Glob.parse "Gen.swift".toList = .ok ("Gen.swift".toList.map .character) :=
    eq_ok_of_toOption (by decide +kernel)
  obtain rfl := Except.ok.inj (known.symm.trans read)
  decide +kernel

/-- Behind a dot the generated file is taken all the same; and with nothing behind the slash, no
file is found at all. -/
theorem discover_behind_dot :
    generatedBeside.locate ⟨"./d"⟩ = generatedBeside.locate ⟨"d"⟩ ∧
    discover generatedBeside withoutGenerated [⟨"d"⟩] = .ok [⟨"d/a.swift"⟩] ∧
    discover generatedBeside withoutGenerated [⟨"./d"⟩] =
      .ok [⟨"d/Gen.swift"⟩, ⟨"d/a.swift"⟩] ∧
    generatedBeside.locate ⟨"./"⟩ = generatedBeside.locate ⟨"."⟩ ∧
    discover generatedBeside withoutGenerated [⟨"."⟩] =
      .ok [⟨"d/Gen.swift"⟩, ⟨"d/a.swift"⟩] ∧
    discover generatedBeside withoutGenerated [⟨"./"⟩] = .ok [] := by
  have excludes : excluded withoutGenerated = .ok ["Gen.swift".toList.map .character] :=
    eq_ok_of_toOption (by decide +kernel)
  have both : Path.sorted [⟨"d/Gen.swift"⟩, ⟨"d/a.swift"⟩] = [⟨"d/Gen.swift"⟩, ⟨"d/a.swift"⟩] := by
    rw [Path.sorted, List.mergeSort_of_pairwise (by decide +kernel)]
    decide +kernel
  refine ⟨rfl, ?_, ?_, rfl, ?_, ?_⟩
  · exact eq_ok_of_toOption (by decide +kernel)
  · rw [← both]
    exact discover_singleton excludes (eq_ok_of_toOption (by decide +kernel))
  · rw [← both]
    exact discover_singleton excludes (eq_ok_of_toOption (by decide +kernel))
  · exact eq_ok_of_toOption (by decide +kernel)

end Discovery

end SwiftStyle
