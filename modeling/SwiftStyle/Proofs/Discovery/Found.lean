import SwiftStyle.Discovery
import SwiftStyle.Proofs.Path.Order
import SwiftStyle.Proofs.Results
import SwiftStyle.Proofs.Workspace.Following

/-!
What discovery finds and loads: files only, in strictly ascending order of their paths, and of those
the ones that hold a text.
-/

namespace SwiftStyle

namespace Workspace

variable {w : Workspace} {path path' : Path} {text : String}

/-- Whether a path leads to a text in some spelling. -/
def HasText (w : Workspace) (path : Path) : Prop :=
  ∃ spelled text, spelled.components = path.components ∧ w.read spelled = .ok text

theorem read_eq_of_locate {location : List String} (there : w.locate path = .ok location)
    (there' : w.locate path' = .ok location) : w.read path = w.read path' := by
  simp only [read, get, there, there']

theorem exists_location_of_read (h : w.read path = .ok text) :
    ∃ location, w.locate path = .ok location := by
  unfold read get at h
  cases there : w.locate path with
  | ok location => exact ⟨location, rfl⟩
  | error error =>
    rw [there] at h
    cases h

/-- A file can be read in any of the spellings that lead to it. -/
theorem HasText.read_of_isFile (h : w.HasText path) (isFile : w.isFile path' = true)
    (same : path'.components = path.components) : ∃ text, w.read path' = .ok text := by
  obtain ⟨spelled, text, same', read⟩ := h
  obtain ⟨location, there⟩ := exists_location_of_read read
  obtain ⟨location', there', -⟩ := isFile_iff.mp isFile
  obtain rfl := location_eq_of_components (same.trans same'.symm) there' there
  exact ⟨text, (read_eq_of_locate there' there).trans read⟩

end Workspace

namespace Discovery

variable {w : Workspace} {config : Config} {path root : Path} {paths found : List Path}
  {parser : Parser} {patterns : List Glob.Pattern}

/-- What is found in a directory is a file, and one of its patterns selects it. -/
theorem exists_select_of_mem_search (h : search w config patterns root = .ok found)
    (mem : path ∈ found) :
    w.isFile path = true ∧ ∃ pattern ∈ included config, ∃ selected,
      Glob.select w (Glob.escape root.text.toList ++ '/' :: pattern.toList) = .ok selected ∧
        path ∈ selected := by
  obtain ⟨lists, searched, kept⟩ := bind_eq_ok_iff.mp h
  obtain rfl := Except.ok.inj kept
  obtain ⟨files, inLists, mem⟩ := List.mem_flatten.mp (List.mem_of_mem_filter mem)
  obtain ⟨pattern, given, selects⟩ := exists_of_mapM_eq_ok searched files inLists
  unfold selectIn at selects
  simp only at selects
  split at selects
  · next selected same =>
    obtain rfl := Except.ok.inj selects
    obtain ⟨mem, isFile⟩ := List.mem_filter.mp mem
    exact ⟨isFile, pattern, given, selected, same, mem⟩
  · cases selects

theorem isFile_of_expand (h : expand w config patterns root = .ok found) (mem : path ∈ found) :
    w.isFile path = true := by
  unfold expand at h
  split at h
  · next isFile =>
    obtain rfl := Except.ok.inj h
    rwa [List.mem_singleton.mp mem]
  · split at h
    · exact (exists_select_of_mem_search h mem).1
    · obtain rfl := Except.ok.inj h
      exact absurd mem List.not_mem_nil

theorem discover_eq_ok_iff : discover w config paths = .ok found ↔
    ∃ patterns, ∃ lists : List (List Path), excluded config = .ok patterns ∧
      paths.map (expand w config patterns) = lists.map .ok ∧ found = Path.sorted lists.flatten := by
  unfold discover
  simp only [bind_eq_ok_iff, mapM_eq_ok_iff, pure, Except.pure, Except.ok.injEq]
  constructor
  · rintro ⟨patterns, compiled, lists, expanded, rfl⟩
    exact ⟨patterns, lists, compiled, expanded, rfl⟩
  · rintro ⟨patterns, lists, compiled, expanded, rfl⟩
    exact ⟨patterns, compiled, lists, expanded, rfl⟩

/-- What is found at all is found for one of the paths. -/
theorem exists_expand_of_mem_discover (h : discover w config paths = .ok found)
    (mem : path ∈ found) : ∃ patterns, ∃ given ∈ paths, ∃ files,
      expand w config patterns given = .ok files ∧ path ∈ files := by
  obtain ⟨patterns, lists, -, expanded, rfl⟩ := discover_eq_ok_iff.mp h
  obtain ⟨files, inLists, mem⟩ := List.mem_flatten.mp (Path.mem_of_mem_sorted mem)
  obtain ⟨given, inPaths, expands⟩ :=
    exists_of_mapM_eq_ok (mapM_eq_ok_iff.mpr expanded) files inLists
  exact ⟨patterns, given, inPaths, files, expands, mem⟩

theorem isFile_of_discover (h : discover w config paths = .ok found) (mem : path ∈ found) :
    w.isFile path = true := by
  obtain ⟨patterns, given, -, files, expands, mem⟩ := exists_expand_of_mem_discover h mem
  exact isFile_of_expand expands mem

theorem discover_ascending (h : discover w config paths = .ok found) :
    found.Pairwise Path.Before := by
  obtain ⟨patterns, lists, -, -, rfl⟩ := discover_eq_ok_iff.mp h
  exact Path.sorted_ascending _

theorem mem_load {file : SourceFile} : file ∈ load w parser paths ↔
    ∃ path ∈ paths, ∃ text, w.read path = .ok text ∧ file = ⟨some path.text, text, parser⟩ := by
  unfold load
  rw [List.mem_filterMap]
  refine exists_congr fun path => and_congr_right fun _ => ?_
  cases w.read path with
  | error error => simp
  | ok text => simp [eq_comm]

theorem load_append (first second : List Path) :
    load w parser (first ++ second) = load w parser first ++ load w parser second :=
  List.filterMap_append

theorem load_pairwise {R : Path → Path → Prop} (ordered : paths.Pairwise R) :
    (load w parser paths).Pairwise fun a b => ∃ p q : Path,
      a.path = some p.text ∧ b.path = some q.text ∧ R p q := by
  unfold load
  apply ordered.filterMap
  intro p q before a loaded b loaded'
  refine ⟨p, q, ?_, ?_, before⟩
  · split at loaded <;> cases loaded
    rfl
  · split at loaded' <;> cases loaded'
    rfl

end Discovery

end SwiftStyle
