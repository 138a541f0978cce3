import SwiftStyle.Proofs.Config.Nearest
import SwiftStyle.Proofs.Lists
import SwiftStyle.Proofs.Results

/-!
The groups of some paths. There is one for each source that governs a path, in the order in which
the sources are first met, and it has the paths of its source in their own order. Sources are
compared by the steps of their paths, which tells different files apart since each is spelled from
the root.
-/

namespace SwiftStyle

namespace ConfigSource

variable {w : Workspace} {named : Option Path} {paths : List Path} {home home' : List String}

/-! Sources that are the same. -/

theorem IsNearest.isName {tree : FileTree} {location : List String} {name : String}
    (h : IsNearest tree home location name) (names : ∀ name ∈ home, Path.IsName name.toList) :
    ∀ other ∈ location ++ [name], Path.IsName other.toList :=
  isName_concat (fun other mem => names other (h.above.subset mem)) h.known

theorem isSame_self (source : ConfigSource) : source.isSame source = true := by
  cases source <;> simp [isSame, Path.isSame]

theorem Governs.isSame_iff {source source' : ConfigSource} (h : Governs w home named source)
    (h' : Governs w home' named source') (names : ∀ name ∈ home, Path.IsName name.toList)
    (names' : ∀ name ∈ home', Path.IsName name.toList) :
    source.isSame source' = true ↔ source = source' := by
  refine ⟨fun same => ?_, fun same => same ▸ isSame_self source⟩
  cases h with
  | explicit file =>
    cases h'
    rfl
  | project nearest =>
    cases h' with
    | project nearest' =>
      rw [(Workspace.pathTo_isSame_iff (nearest.isName names) (nearest'.isName names')).mp same]
    | global | default => cases same
  | global none given isFile =>
    cases h' with
    | global _ given' =>
      obtain rfl := Option.some.inj (given.symm.trans given')
      rfl
    | project | default => cases same
  | default none missing =>
    cases h' with
    | default => rfl
    | project | global => cases same

/-! The groups, path by path. -/

/-- The groups that some paths make by their sources. -/
def grouped (sourceOf : Path → ConfigSource) (paths : List Path) :
    List (ConfigSource × List Path) :=
  (paths.map sourceOf).eraseDups.map fun source =>
    (source, paths.filter fun path => sourceOf path = source)

theorem addTo_map_of_mem {sources : List ConfigSource} {members : ConfigSource → List Path}
    {source : ConfigSource} {path : Path} (distinct : sources.Nodup)
    (same : ∀ known ∈ sources, known.isSame source = true ↔ known = source)
    (mem : source ∈ sources) :
    addTo source path (sources.map fun known => (known, members known)) =
      sources.map fun known =>
        (known, if known = source then members known ++ [path] else members known) := by
  induction sources with
  | nil => exact absurd mem List.not_mem_nil
  | cons known sources ih =>
    obtain ⟨fresh, distinct⟩ := List.nodup_cons.mp distinct
    obtain ⟨now, later⟩ := List.forall_mem_cons.mp same
    rw [List.map_cons, List.map_cons, addTo]
    by_cases equal : known = source
    · subst equal
      rw [if_pos (now.mpr rfl), if_pos rfl]
      congr 1
      apply List.map_congr_left
      intro other inOthers
      have differ : other ≠ known := by
        rintro rfl
        exact fresh inOthers
      rw [if_neg differ]
    · rw [if_neg (mt now.mp equal), if_neg equal]
      rw [ih distinct later ((List.mem_cons.mp mem).resolve_left (Ne.symm equal))]

theorem addTo_map_of_not_mem {sources : List ConfigSource} {members : ConfigSource → List Path}
    {source : ConfigSource} {path : Path}
    (same : ∀ known ∈ sources, known.isSame source = true ↔ known = source)
    (fresh : source ∉ sources) :
    addTo source path (sources.map fun known => (known, members known)) =
      (sources.map fun known => (known, members known)) ++ [(source, [path])] := by
  induction sources with
  | nil => rfl
  | cons known sources ih =>
    obtain ⟨now, later⟩ := List.forall_mem_cons.mp same
    obtain ⟨differ, fresh⟩ := not_or.mp (mt List.mem_cons.mpr fresh)
    rw [List.map_cons, addTo, if_neg (mt now.mp (Ne.symm differ)), ih later fresh,
      List.cons_append]

/-- One more path goes to the group of its source, or opens it. -/
theorem addTo_grouped {sourceOf : Path → ConfigSource} {path : Path}
    (same : ∀ other ∈ paths, (sourceOf other).isSame (sourceOf path) = true ↔
      sourceOf other = sourceOf path) :
    addTo (sourceOf path) path (grouped sourceOf paths) = grouped sourceOf (paths ++ [path]) := by
  have same' : ∀ known ∈ (paths.map sourceOf).eraseDups,
      known.isSame (sourceOf path) = true ↔ known = sourceOf path := by
    intro known mem
    obtain ⟨other, listed, rfl⟩ := List.mem_map.mp (List.mem_eraseDups.mp mem)
    exact same other listed
  unfold grouped
  rw [List.map_append, List.map_singleton, eraseDups_concat]
  by_cases known : sourceOf path ∈ paths.map sourceOf
  · rw [if_pos known, addTo_map_of_mem (nodup_eraseDups _) same' (List.mem_eraseDups.mpr known)]
    apply List.map_congr_left
    intro source _
    by_cases equal : source = sourceOf path
    · simp [List.filter_append, equal]
    · simp [List.filter_append, equal, Ne.symm equal]
  · rw [if_neg known, addTo_map_of_not_mem same' (mt List.mem_eraseDups.mp known),
      List.map_append]
    congr 1
    · apply List.map_congr_left
      intro source mem
      have differ : sourceOf path ≠ source := by
        rintro rfl
        exact known (List.mem_eraseDups.mp mem)
      simp [List.filter_append, differ]
    · have none : (paths.filter fun other => sourceOf other = sourceOf path) = [] := by
        apply List.filter_eq_nil_iff.mpr
        intro other mem equal
        exact known (List.mem_map.mpr ⟨other, mem, of_decide_eq_true equal⟩)
      simp [List.filter_append, none]

theorem groups_eq_grouped
    (same : ∀ path ∈ paths, ∀ other ∈ paths,
      (locate w named path).isSame (locate w named other) = true ↔
        locate w named path = locate w named other) :
    groups w named paths = grouped (locate w named) paths := by
  induction paths using List.reverseRecOn with
  | nil => rfl
  | append_singleton paths path ih =>
    have known : ∀ other ∈ paths, other ∈ paths ++ [path] := fun other mem =>
      List.mem_append_left _ mem
    have before := ih fun path mem other mem' => same path (known path mem) other (known other mem')
    rw [groups, List.foldl_append, List.foldl_cons, List.foldl_nil, ← groups, before]
    apply addTo_grouped
    exact fun other mem => same other (known other mem) path (List.mem_append_right _ (by simp))

theorem groups_eq (wellNamed : w.tree.WellNamed)
    (starts : ∀ path ∈ paths, ∃ home, StartsAt w path home) :
    groups w named paths = grouped (locate w named) paths := by
  apply groups_eq_grouped
  intro path mem other mem'
  obtain ⟨home, starts₁⟩ := starts path mem
  obtain ⟨home', starts₂⟩ := starts other mem'
  exact (governs_locate starts₁ wellNamed named).isSame_iff
    (governs_locate starts₂ wellNamed named) (starts₁.isName wellNamed) (starts₂.isName wellNamed)

/-! The groups with what is loaded for them. -/

/-- One group with what is loaded for its source. -/
def loadGroup (w : Workspace) (entry : ConfigSource × List Path) :
    Except (Path × ConfigFileError) ConfigGroup := do
  return ⟨entry.1, ← load w entry.1, entry.2⟩

theorem resolve_eq (w : Workspace) (named : Option Path) (paths : List Path) :
    resolve w named paths = (groups w named paths).mapM (loadGroup w) := rfl

theorem loadGroup_eq_ok_iff {entry : ConfigSource × List Path} {group : ConfigGroup} :
    loadGroup w entry = .ok group ↔
      entry = (group.source, group.paths) ∧ load w group.source = .ok group.config := by
  rw [loadGroup, bind_eq_ok_iff]
  constructor
  · rintro ⟨config, accepted, same⟩
    obtain rfl := Except.ok.inj same
    exact ⟨rfl, accepted⟩
  · rintro ⟨rfl, accepted⟩
    exact ⟨group.config, accepted, rfl⟩

theorem resolve_eq_ok_iff {loaded : List ConfigGroup} : resolve w named paths = .ok loaded ↔
    groups w named paths = loaded.map (fun group => (group.source, group.paths)) ∧
      ∀ group ∈ loaded, load w group.source = .ok group.config := by
  rw [resolve_eq, mapM_eq_ok_iff]
  generalize groups w named paths = entries
  induction entries generalizing loaded with
  | nil => cases loaded <;> simp
  | cons entry entries ih =>
    cases loaded with
    | nil => simp
    | cons group loaded =>
      rw [List.map_cons, List.map_cons, List.cons.injEq, List.map_cons, List.cons.injEq,
        List.forall_mem_cons, loadGroup_eq_ok_iff, ih]
      tauto

theorem exists_resolve_iff :
    (∃ loaded, resolve w named paths = .ok loaded) ↔
      ∀ entry ∈ groups w named paths, ∃ config, load w entry.1 = .ok config := by
  constructor
  · rintro ⟨loaded, resolved⟩ entry mem
    obtain ⟨same, accepted⟩ := resolve_eq_ok_iff.mp resolved
    rw [same] at mem
    obtain ⟨group, isLoaded, rfl⟩ := List.mem_map.mp mem
    exact ⟨group.config, accepted group isLoaded⟩
  · intro accepted
    have each : ∀ entry ∈ groups w named paths, ∃ group, loadGroup w entry = .ok group := by
      intro entry mem
      obtain ⟨config, loads⟩ := accepted entry mem
      exact ⟨⟨entry.1, config, entry.2⟩, loadGroup_eq_ok_iff.mpr ⟨rfl, loads⟩⟩
    obtain ⟨loaded, resolved, -⟩ := exists_mapM each
    exact ⟨loaded, resolved⟩

theorem exists_error_of_resolve_iff (wellNamed : w.tree.WellNamed)
    (starts : ∀ path ∈ paths, ∃ home, StartsAt w path home) :
    (∃ error, resolve w named paths = .error error) ↔
      ∃ path ∈ paths, ∃ error, load w (locate w named path) = .error error := by
  rw [← not_iff_not, ← exists_ok_iff_not_exists_error, exists_resolve_iff,
    groups_eq wellNamed starts]
  simp only [not_exists, not_and]
  constructor
  · intro loads path mem error refused
    have listed := List.mem_eraseDups.mpr (List.mem_map_of_mem (f := locate w named) mem)
    obtain ⟨config, accepted⟩ := loads _ (List.mem_map_of_mem listed)
    rw [accepted] at refused
    cases refused
  · intro loads entry mem
    obtain ⟨source, listed, rfl⟩ := List.mem_map.mp mem
    obtain ⟨path, given, rfl⟩ := List.mem_map.mp (List.mem_eraseDups.mp listed)
    apply exists_ok_iff_not_exists_error.mpr
    rintro ⟨error, refused⟩
    exact loads path given error refused

/-- Every path has the configuration file that is nearest to it, or the one named for the whole run.
Paths with one file make one group. -/
theorem resolve_groups_by_nearest (w : Workspace) (named : Option Path) (paths : List Path)
    (wellNamed : w.tree.WellNamed) (starts : ∀ path ∈ paths, ∃ home, StartsAt w path home) :
    (∀ path home source, StartsAt w path home →
      (locate w named path = source ↔ Governs w home named source)) ∧
    (∀ loaded, resolve w named paths = .ok loaded →
      loaded.map ConfigGroup.source = (paths.map (locate w named)).eraseDups ∧
      (loaded.map ConfigGroup.source).Nodup ∧
      (∀ group ∈ loaded, load w group.source = .ok group.config ∧
        group.paths = paths.filter fun path => locate w named path = group.source) ∧
      (loaded.flatMap ConfigGroup.paths).Perm paths) ∧
    ((∃ error, resolve w named paths = .error error) ↔
      ∃ path ∈ paths, ∃ error, load w (locate w named path) = .error error) := by
  refine ⟨fun path home source starts => locate_eq_iff_governs starts wellNamed,
    fun loaded resolved => ?_, exists_error_of_resolve_iff wellNamed starts⟩
  obtain ⟨same, accepted⟩ := resolve_eq_ok_iff.mp resolved
  rw [groups_eq wellNamed starts] at same
  have sources : loaded.map ConfigGroup.source = (paths.map (locate w named)).eraseDups := by
    have firsts := congrArg (List.map Prod.fst) same.symm
    rw [grouped, List.map_map, List.map_map] at firsts
    exact firsts.trans (List.map_id _)
  have members : ∀ group ∈ loaded,
      group.paths = paths.filter fun path => locate w named path = group.source := by
    intro group mem
    have listed : (group.source, group.paths) ∈ grouped (locate w named) paths := by
      rw [same]
      exact List.mem_map_of_mem mem
    obtain ⟨source, -, equal⟩ := List.mem_map.mp listed
    obtain ⟨rfl, rest⟩ := Prod.mk.inj equal
    exact rest.symm
  have distinct : (loaded.map ConfigGroup.source).Nodup := sources ▸ nodup_eraseDups _
  refine ⟨sources, distinct, fun group mem => ⟨accepted group mem, members group mem⟩, ?_⟩
  rw [List.flatMap_congr members]
  have covered : ∀ path ∈ paths, locate w named path ∈ loaded.map ConfigGroup.source := by
    intro path mem
    rw [sources, List.mem_eraseDups]
    exact List.mem_map_of_mem mem
  have all := flatMap_filter_perm distinct covered
  rwa [List.flatMap_map] at all

/-- Two projects, one in the other, and one without a configuration of its own. -/
def nestedProjects : Workspace where
  tree := .directory [("a", .directory [
      (".style-lint.toml", .file (.binary [255])),
      ("b", .directory [(".style-lint.toml", .file (.text "")), ("x.swift", .file (.text ""))]),
      ("style-lint.toml", .file (.text "")),
      ("y.swift", .file (.text ""))]),
    ("c", .directory [("z.swift", .file (.text ""))]),
    ("etc", .directory [("config.toml", .file (.text ""))])]
  directory := []
  configDirectory := some ⟨"/etc"⟩

theorem resolve_groups_by_nearest_nested :
    nestedProjects.tree.WellNamed ∧
    resolve nestedProjects none [⟨"a/y.swift"⟩, ⟨"a/b"⟩, ⟨"c/z.swift"⟩, ⟨"a/n.swift"⟩] =
      .ok [⟨.project ⟨"/a/style-lint.toml"⟩, Config.default, [⟨"a/y.swift"⟩, ⟨"a/n.swift"⟩]⟩,
        ⟨.project ⟨"/a/b/.style-lint.toml"⟩, Config.default, [⟨"a/b"⟩]⟩,
        ⟨.global ⟨"/etc/config.toml"⟩, Config.default, [⟨"c/z.swift"⟩]⟩] ∧
    Governs nestedProjects ["a", "b"] none (.project ⟨"/a/b/.style-lint.toml"⟩) ∧
    (∃ error, resolve nestedProjects (some ⟨"a/.style-lint.toml"⟩) [⟨"c/z.swift"⟩] =
      .error error) := by
  have wellNamed : nestedProjects.tree.WellNamed := by
    simp only [nestedProjects, FileTree.WellNamed, FileTree.WellNamedIn]
    decide
  have inA : StartsAt nestedProjects ⟨"a/n.swift"⟩ ["a"] := .around rfl rfl rfl
  have beside : StartsAt nestedProjects ⟨"a/y.swift"⟩ ["a"] := startsAt_of_file rfl ⟨_, rfl⟩
  have inB : StartsAt nestedProjects ⟨"a/b"⟩ ["a", "b"] := .itself rfl rfl
  have inC : StartsAt nestedProjects ⟨"c/z.swift"⟩ ["c"] := startsAt_of_file rfl ⟨_, rfl⟩
  have starts : ∀ path ∈ ([⟨"a/y.swift"⟩, ⟨"a/b"⟩, ⟨"c/z.swift"⟩, ⟨"a/n.swift"⟩] : List Path),
      ∃ home, StartsAt nestedProjects path home := by
    simp only [List.forall_mem_cons]
    exact ⟨⟨_, beside⟩, ⟨_, inB⟩, ⟨_, inC⟩, ⟨_, inA⟩, by simp⟩
  obtain ⟨governed, -, -⟩ := resolve_groups_by_nearest nestedProjects none _ wellNamed starts
  obtain ⟨-, -, fails⟩ := resolve_groups_by_nearest nestedProjects
    (some ⟨"a/.style-lint.toml"⟩) [⟨"c/z.swift"⟩] wellNamed (by simpa using ⟨_, inC⟩)
  refine ⟨wellNamed, rfl, (governed _ _ _ inB).mp rfl, ?_⟩
  exact fails.mpr ⟨_, List.mem_cons_self, (⟨"a/.style-lint.toml"⟩, .unreadable .notText), rfl⟩

end ConfigSource

end SwiftStyle
