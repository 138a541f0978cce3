import SwiftStyle.Command
import SwiftStyle.Proofs.Analyzer.Separation
import SwiftStyle.Proofs.Discovery.Directories
import SwiftStyle.Proofs.Discovery.Found

/-!
Which group of paths a file belongs to. The groups are gone through in order, and what one of them
reaches is left to it by all that follow. As nothing is run before every group has its batch, one
configuration that is refused keeps the files of all groups from being looked at.
-/

namespace SwiftStyle

/-- Whether a group finds a path as it is spelled. -/
def ConfigGroup.Finds (w : Workspace) (group : ConfigGroup) (path : Path) : Prop :=
  ∃ found, Discovery.discover w group.config group.paths = .ok found ∧ path ∈ found

/-- Whether a group finds a path in some spelling. -/
def ConfigGroup.Reaches (w : Workspace) (group : ConfigGroup) (path : Path) : Prop :=
  ∃ spelled, group.Finds w spelled ∧ spelled.components = path.components

/-- Whether no group before another one reaches what that one reaches. -/
structure ConfigGroup.IsFirst (w : Workspace) (groups : List ConfigGroup) (i : Nat) (path : Path) :
    Prop where
  reaches : ∃ group, groups[i]? = some group ∧ group.Reaches w path
  earlier : ∀ other ∈ groups.take i, ¬other.Reaches w path

theorem ConfigGroup.exists_isFirst {w : Workspace} {groups : List ConfigGroup} {path : Path}
    (reached : ∃ group ∈ groups, group.Reaches w path) : ∃ i, IsFirst w groups i path := by
  induction groups with
  | nil =>
    obtain ⟨group, mem, -⟩ := reached
    exact absurd mem List.not_mem_nil
  | cons first groups ih =>
    by_cases now : first.Reaches w path
    · exact ⟨0, ⟨first, rfl, now⟩, fun other mem => absurd mem List.not_mem_nil⟩
    · obtain ⟨group, mem, reaches⟩ := reached
      rcases List.mem_cons.mp mem with rfl | mem
      · exact absurd reaches now
      · obtain ⟨i, later, earlier⟩ := ih ⟨group, mem, reaches⟩
        exact ⟨i + 1, later, List.forall_mem_cons.mpr ⟨now, earlier⟩⟩

theorem ConfigGroup.IsFirst.unique {w : Workspace} {groups : List ConfigGroup} {path : Path}
    {i j : Nat} (hi : IsFirst w groups i path) (hj : IsFirst w groups j path) : i = j := by
  have le {i j : Nat} (hi : IsFirst w groups i path) (hj : IsFirst w groups j path) : i ≤ j := by
    by_contra later
    obtain ⟨group, at_, reaches⟩ := hj.reaches
    have before : group ∈ groups.take i := by
      apply List.mem_of_getElem? (i := j)
      rwa [List.getElem?_take_of_lt (Nat.not_le.mp later)]
    exact hi.earlier group before reaches
  exact Nat.le_antisymm (le hi hj) (le hj hi)

/-- Whether a configuration names a rule that is not there, has a section that its rule rejects, or
has a pattern for files to leave out that cannot be read. -/
inductive Config.IsRefused (config : Config) : Prop
  | unknown {id : String} : id ∈ config.mentioned → id ∉ Rule.builtin.map Rule.id →
      IsRefused config
  | rejected {rule : Rule} {s : Section} {error : ConfigError} : rule ∈ Rule.builtin →
      config.rules.lookup rule.id = some s → rule.configure s = .error error → IsRefused config
  | unreadable {pattern : String} {error : Glob.SyntaxError} : pattern ∈ config.excluded →
      Glob.parse pattern.toList = .error error → IsRefused config

/-! The batches of groups. -/

namespace Batch

variable {w : Workspace} {parser : Parser} {seen paths : List Path} {config : Config}
  {earlier groups : List ConfigGroup} {group : ConfigGroup} {batches : List Batch}

/-- Whether a batch has a path in some spelling. -/
def Has (batch : Batch) (path : Path) : Prop :=
  ∃ file ∈ batch.files, ∃ spelled, file.path = some spelled ∧
    (Path.mk spelled).components = path.components

/-- Whether the paths that are taken are those that some groups reach. -/
def Knows (w : Workspace) (seen : List Path) (earlier : List ConfigGroup) : Prop :=
  ∀ path, (∃ taken ∈ seen, taken.components = path.components) ↔
    ∃ group ∈ earlier, group.Reaches w path

/-- What is left for a group after those before it. -/
structure LeftFor (w : Workspace) (earlier : List ConfigGroup) (group : ConfigGroup)
    (paths : List Path) : Prop where
  ascending : paths.Pairwise Path.Before
  found : ∀ path ∈ paths, group.Finds w path
  free : ∀ path ∈ paths, ∀ other ∈ earlier, ¬other.Reaches w path
  complete : ∀ path, group.Reaches w path → (∀ other ∈ earlier, ¬other.Reaches w path) →
    ∃ spelled ∈ paths, spelled.components = path.components

theorem reached_eq_ok_iff : reached w seen group = .ok paths ↔
    ∃ found, Discovery.discover w group.config group.paths = .ok found ∧
      paths = found.filter fun path => !seen.any path.isSame := by
  unfold reached
  simp only [bind_eq_ok_iff, mapError_eq_ok_iff, pure, Except.pure, Except.ok.injEq,
    @eq_comm _ paths]

theorem ofGroups_cons_eq_ok_iff : ofGroups w parser seen (group :: groups) = .ok batches ↔
    ∃ paths analyzer others, reached w seen group = .ok paths ∧
      analyzerOf group.config = .ok analyzer ∧
      ofGroups w parser (seen ++ paths) groups = .ok others ∧
      batches = ⟨analyzer, Discovery.load w parser paths⟩ :: others := by
  simp only [ofGroups, bind_eq_ok_iff, pure, Except.pure, Except.ok.injEq, @eq_comm _ batches]
  constructor
  · rintro ⟨paths, reaches, analyzer, built, others, later, same⟩
    exact ⟨paths, analyzer, others, reaches, built, later, same⟩
  · rintro ⟨paths, analyzer, others, reaches, built, later, same⟩
    exact ⟨paths, reaches, analyzer, built, others, later, same⟩

/-- One group takes what those before it left. -/
theorem leftFor_of_reached (known : Knows w seen earlier) (h : reached w seen group = .ok paths) :
    LeftFor w earlier group paths := by
  obtain ⟨found, discovered, rfl⟩ := reached_eq_ok_iff.mp h
  have free_iff (path : Path) : (!seen.any path.isSame) = true ↔
      ∀ other ∈ earlier, ¬other.Reaches w path := by
    have taken : seen.any path.isSame = true ↔ ∃ other ∈ earlier, other.Reaches w path := by
      rw [← known path, List.any_eq_true]
      refine exists_congr fun taken => and_congr_right fun _ => ?_
      exact beq_iff_eq.trans eq_comm
    rw [Bool.not_eq_true', ← Bool.not_eq_true, taken]
    push Not
    rfl
  refine ⟨(Discovery.discover_ascending discovered).filter _, fun path mem => ?_,
    fun path mem => ?_, fun path reaches free => ?_⟩
  · exact ⟨found, discovered, List.mem_of_mem_filter mem⟩
  · exact (free_iff path).mp (List.mem_filter.mp mem).2
  · obtain ⟨spelled, ⟨found', discovered', mem⟩, same⟩ := reaches
    obtain rfl := Except.ok.inj (discovered.symm.trans discovered')
    refine ⟨spelled, List.mem_filter.mpr ⟨mem, (free_iff spelled).mpr ?_⟩, same⟩
    rintro other before ⟨spelled', finds, same'⟩
    exact free other before ⟨spelled', finds, same'.trans same⟩

theorem Knows.append (known : Knows w seen earlier) (left : LeftFor w earlier group paths) :
    Knows w (seen ++ paths) (earlier ++ [group]) := by
  intro path
  constructor
  · rintro ⟨taken, mem, same⟩
    rcases List.mem_append.mp mem with mem | mem
    · obtain ⟨other, before, reaches⟩ := (known path).mp ⟨taken, mem, same⟩
      exact ⟨other, List.mem_append_left _ before, reaches⟩
    · exact ⟨group, List.mem_append_right _ List.mem_cons_self, taken, left.found taken mem, same⟩
  · intro reached
    by_cases before : ∃ other ∈ earlier, other.Reaches w path
    · obtain ⟨taken, mem, same⟩ := (known path).mpr before
      exact ⟨taken, List.mem_append_left _ mem, same⟩
    · push Not at before
      obtain ⟨other, mem, reaches⟩ := reached
      rcases List.mem_append.mp mem with mem | mem
      · exact absurd reaches (before other mem)
      · rw [List.mem_singleton.mp mem] at reaches
        obtain ⟨spelled, mem, same⟩ := left.complete path reaches before
        exact ⟨spelled, List.mem_append_right _ mem, same⟩

theorem leftFor_of_ofGroups (known : Knows w seen earlier)
    (h : ofGroups w parser seen groups = .ok batches) :
    batches.length = groups.length ∧ ∀ i group batch, groups[i]? = some group →
      batches[i]? = some batch → analyzerOf group.config = .ok batch.analyzer ∧
        ∃ paths, LeftFor w (earlier ++ groups.take i) group paths ∧
          batch.files = Discovery.load w parser paths := by
  -- along the groups: what is taken so far is what the groups so far reach
  induction groups generalizing seen earlier batches with
  | nil =>
    obtain rfl := Except.ok.inj h
    exact ⟨rfl, fun i group batch at_ => nomatch at_⟩
  | cons first groups ih =>
    obtain ⟨paths, analyzer, others, reaches, built, later, rfl⟩ := ofGroups_cons_eq_ok_iff.mp h
    have left := leftFor_of_reached known reaches
    obtain ⟨length, each⟩ := ih (known.append left) later
    refine ⟨congrArg (· + 1) length, fun i group batch at_ at' => ?_⟩
    cases i with
    | zero =>
      obtain rfl := Option.some.inj at_
      obtain rfl := Option.some.inj at'
      refine ⟨built, paths, ?_, rfl⟩
      rwa [List.take_zero, List.append_nil]
    | succ i =>
      have here := each i group batch at_ at'
      rwa [List.append_assoc, List.singleton_append, ← List.take_succ_cons] at here

/-- A batch has those of its paths that lead to texts. -/
theorem has_iff {batch : Batch} (left : LeftFor w earlier group paths)
    (loaded : batch.files = Discovery.load w parser paths) (path : Path) :
    batch.Has path ↔
      group.Reaches w path ∧ (∀ other ∈ earlier, ¬other.Reaches w path) ∧ w.HasText path := by
  constructor
  · rintro ⟨file, mem, spelled, named, same⟩
    rw [loaded] at mem
    obtain ⟨own, inPaths, text, read, rfl⟩ := Discovery.mem_load.mp mem
    obtain rfl := Option.some.inj named
    refine ⟨⟨own, left.found own inPaths, same⟩, ?_, own, text, same, read⟩
    rintro other before ⟨spelled, finds, same'⟩
    exact left.free own inPaths other before ⟨spelled, finds, same'.trans same.symm⟩
  · rintro ⟨reaches, free, hasText⟩
    obtain ⟨own, mem, same⟩ := left.complete path reaches free
    obtain ⟨found, discovered, found'⟩ := left.found own mem
    obtain ⟨text, read⟩ :=
      hasText.read_of_isFile (Discovery.isFile_of_discover discovered found') same
    refine ⟨⟨some own.text, text, parser⟩, ?_, own.text, rfl, same⟩
    rw [loaded]
    exact Discovery.mem_load.mpr ⟨own, mem, text, read, rfl⟩

/-- A configuration that is refused has no analyzer, or no patterns to discover files with. -/
theorem not_isRefused {analyzer : Analyzer} {found : List Path}
    (built : analyzerOf config = .ok analyzer)
    (discovered : Discovery.discover w config paths = .ok found) : ¬config.IsRefused := by
  obtain ⟨known, configured, ready, -⟩ :=
    Analyzer.build_eq_ok_iff.mp (mapError_eq_ok_iff.mp built)
  obtain ⟨patterns, -, compiled, -⟩ := Discovery.discover_eq_ok_iff.mp discovered
  intro refused
  cases refused with
  | unknown mentioned unknown => exact unknown (known _ mentioned)
  | rejected mem inSections rejects =>
    obtain ⟨own, accepted⟩ := exists_ok_of_mem ready mem
    simp only [Config.configure, inSections, rejects] at accepted
    cases accepted
  | unreadable mem unreadable =>
    obtain ⟨pattern, accepted⟩ := exists_ok_of_mem (mapM_eq_ok_iff.mp compiled) mem
    rw [unreadable] at accepted
    cases accepted

theorem analyzerOf_default : analyzerOf Config.default = .ok ⟨Rule.builtin, false⟩ := rfl

theorem ofGroups_of_refused (refused : ∃ group ∈ groups, group.config.IsRefused) :
    ∃ error, ofGroups w parser seen groups = .error error := by
  induction groups generalizing seen with
  | nil =>
    obtain ⟨group, mem, -⟩ := refused
    exact absurd mem List.not_mem_nil
  | cons first groups ih =>
    cases result : ofGroups w parser seen (first :: groups) with
    | error error => exact ⟨error, rfl⟩
    | ok batches =>
      obtain ⟨paths, analyzer, others, reaches, built, later, -⟩ :=
        ofGroups_cons_eq_ok_iff.mp result
      obtain ⟨found, discovered, -⟩ := reached_eq_ok_iff.mp reaches
      obtain ⟨group, mem, refused⟩ := refused
      rcases List.mem_cons.mp mem with rfl | mem
      · exact absurd refused (not_isRefused built discovered)
      · obtain ⟨error, fails⟩ : ∃ error, ofGroups w parser (seen ++ paths) groups = .error error :=
          ih ⟨group, mem, refused⟩
        rw [fails] at later
        cases later

theorem run_of_setup_error {named : Option Path} {paths : List Path} {error : SetupError}
    (fails : ofPaths w parser named paths = .error error) :
    (∀ format strict, (Invocation.mk named (.lint paths format strict)).run w parser =
        .failure w (.setup error)) ∧
      ∀ dryRun, (Invocation.mk named (.autocorrect paths dryRun)).run w parser =
        .failure w (.setup error) := by
  constructor
  · intro format strict
    simp only [Invocation.run, Command.lintFiles, fails]
    rfl
  · intro dryRun
    simp only [Invocation.run, Command.correctFiles, fails]
    rfl

/-- There is one batch for each group, in order. What several groups reach is in the batch of the
first of them and in no other if it can be read as text, and in none otherwise; each batch holds
files that its group finds, in ascending order. If the configuration of one group is refused there
are no batches, and commands fail before they look at any file. -/
theorem governed_by_first_group (w : Workspace) (parser : Parser) (groups : List ConfigGroup) :
    (∀ batches, ofGroups w parser [] groups = .ok batches →
      batches.length = groups.length ∧
      (∀ i group batch, groups[i]? = some group → batches[i]? = some batch →
        analyzerOf group.config = .ok batch.analyzer ∧
        (batch.files.Pairwise fun a b => ∃ p q : Path,
          a.path = some p.text ∧ b.path = some q.text ∧ p.Before q) ∧
        ∀ file ∈ batch.files, ∃ path text, file = ⟨some path.text, text, parser⟩ ∧
          w.read path = .ok text ∧ group.Finds w path ∧
            ∀ other ∈ groups.take i, ¬other.Reaches w path) ∧
      ∀ path, (∃ group ∈ groups, group.Reaches w path) →
        ∃ i, ConfigGroup.IsFirst w groups i path ∧ ∀ j batch, batches[j]? = some batch →
          (batch.Has path ↔ j = i ∧ w.HasText path)) ∧
    ((∃ group ∈ groups, group.config.IsRefused) →
      (∃ error, ofGroups w parser [] groups = .error error) ∧
      ∀ named paths, resolve w named paths = .ok groups → ∃ error,
        (∀ format strict, (Invocation.mk named (.lint paths format strict)).run w parser =
          .failure w (.setup error)) ∧
        ∀ dryRun, (Invocation.mk named (.autocorrect paths dryRun)).run w parser =
          .failure w (.setup error)) := by
  constructor
  · intro batches made
    have none : Knows w [] [] := fun path => by simp
    obtain ⟨length, each⟩ := leftFor_of_ofGroups none made
    simp only [List.nil_append] at each
    refine ⟨length, fun i group batch at_ at' => ?_, fun path reached => ?_⟩
    · obtain ⟨built, paths, left, loaded⟩ := each i group batch at_ at'
      rw [loaded]
      refine ⟨built, Discovery.load_pairwise left.ascending, fun file mem => ?_⟩
      obtain ⟨path, inPaths, text, read, rfl⟩ := Discovery.mem_load.mp mem
      exact ⟨path, text, rfl, read, left.found path inPaths, left.free path inPaths⟩
    · obtain ⟨i, first⟩ := ConfigGroup.exists_isFirst reached
      refine ⟨i, first, fun j batch at' => ?_⟩
      have bound : j < groups.length := length ▸ (List.getElem?_eq_some_iff.mp at').1
      obtain ⟨group, at_⟩ : ∃ group, groups[j]? = some group := ⟨_, List.getElem?_eq_getElem bound⟩
      obtain ⟨built, paths, left, loaded⟩ := each j group batch at_ at'
      rw [has_iff left loaded]
      constructor
      · rintro ⟨reaches, free, hasText⟩
        exact ⟨ConfigGroup.IsFirst.unique ⟨⟨group, at_, reaches⟩, free⟩ first, hasText⟩
      · rintro ⟨rfl, hasText⟩
        obtain ⟨group', at', reaches⟩ := first.reaches
        obtain rfl := Option.some.inj (at_.symm.trans at')
        exact ⟨reaches, first.earlier, hasText⟩
  · intro refused
    obtain ⟨error, fails⟩ : ∃ error, ofGroups w parser [] groups = .error error :=
      ofGroups_of_refused refused
    refine ⟨⟨error, fails⟩, fun named paths resolved => ⟨error, run_of_setup_error ?_⟩⟩
    rw [ofPaths, resolved]
    exact fails

/-- A file on its own and the directory it is in, and a configuration that is refused. -/
def fileThenDirectory : List ConfigGroup :=
  [⟨.project ⟨"/d/style-lint.toml"⟩, Config.default, [⟨"d/a.swift"⟩]⟩,
    ⟨.default, Config.default, [⟨"d"⟩]⟩]

def unknownRule : ConfigGroup :=
  ⟨.explicit ⟨"style-lint.toml"⟩, { Config.default with disabledRules := ["no_such_rule"] }, []⟩

theorem governed_by_first_group_fileThenDirectory :
    (∃ first second, ofGroups Discovery.generatedBeside Analyzer.unreadable.parser []
        fileThenDirectory = .ok [first, second] ∧
      first.Has ⟨"d/a.swift"⟩ ∧ ¬second.Has ⟨"d/a.swift"⟩) ∧
    ∃ error, ofGroups Discovery.generatedBeside Analyzer.unreadable.parser []
      (fileThenDirectory ++ [unknownRule]) = .error error := by
  constructor
  · have alone : Discovery.discover Discovery.generatedBeside Config.default [⟨"d/a.swift"⟩] =
        .ok [⟨"d/a.swift"⟩] := eq_ok_of_toOption (by decide +kernel)
    have both : Discovery.discover Discovery.generatedBeside Config.default [⟨"d"⟩] =
        .ok [⟨"d/Gen.swift"⟩, ⟨"d/a.swift"⟩] := by
      have ordered : Path.sorted [⟨"d/Gen.swift"⟩, ⟨"d/a.swift"⟩] =
          [⟨"d/Gen.swift"⟩, ⟨"d/a.swift"⟩] :=
        (Path.sorted_of_ordered (by decide +kernel)).trans (by decide +kernel)
      rw [← ordered]
      exact Discovery.discover_singleton rfl (eq_ok_of_toOption (by decide +kernel))
    have built := analyzerOf_default
    have made : ofGroups Discovery.generatedBeside Analyzer.unreadable.parser []
        fileThenDirectory = .ok [_, _] :=
      ofGroups_cons_eq_ok_iff.mpr ⟨_, _, _, reached_eq_ok_iff.mpr ⟨_, alone, rfl⟩, built,
        ofGroups_cons_eq_ok_iff.mpr
          ⟨_, _, [], reached_eq_ok_iff.mpr ⟨_, both, rfl⟩, built, rfl, rfl⟩, rfl⟩
    obtain ⟨-, -, governed⟩ := (governed_by_first_group _ _ _).1 _ made
    have reaches : ConfigGroup.Reaches Discovery.generatedBeside
        ⟨.project ⟨"/d/style-lint.toml"⟩, Config.default, [⟨"d/a.swift"⟩]⟩ ⟨"d/a.swift"⟩ :=
      ⟨_, ⟨_, alone, List.mem_cons_self⟩, rfl⟩
    obtain ⟨i, isFirst, has⟩ := governed ⟨"d/a.swift"⟩ ⟨_, List.mem_cons_self, reaches⟩
    obtain rfl : i = 0 := isFirst.unique ⟨⟨_, rfl, reaches⟩, nofun⟩
    refine ⟨_, _, made, (has 0 _ rfl).mpr ⟨rfl, ⟨"d/a.swift"⟩, _, rfl, rfl⟩, fun again => ?_⟩
    exact nomatch ((has 1 _ rfl).mp again).1
  · apply ((governed_by_first_group _ _ _).2 ⟨unknownRule, ?_, ?_⟩).1
    · exact List.mem_append_right _ List.mem_cons_self
    · have mentioned : "no_such_rule" ∈ unknownRule.config.mentioned := by decide +kernel
      exact .unknown mentioned (by decide +kernel)

end Batch

end SwiftStyle
