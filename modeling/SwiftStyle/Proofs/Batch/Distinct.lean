import SwiftStyle.Proofs.Batch.Governance
import SwiftStyle.Proofs.Discovery.Origin

/-!
How often a run takes one file. Paths are told apart by their steps, within a group and from one
group to the next, so no path is taken twice. A file is taken once if the paths of the command line
that lead into each other say so in their steps; a dot in front of a file, or an absolute path
beside a relative one, is enough for it to be taken again.
-/

namespace SwiftStyle

/-- Whether a file was read from a location. -/
def SourceFile.IsFrom (w : Workspace) (file : SourceFile) (location : List String) : Prop :=
  ∃ path : Path, file.path = some path.text ∧ w.locate path = .ok location

/-! The paths of groups. -/

namespace ConfigSource

variable {w : Workspace} {named : Option Path} {paths : List Path}

theorem mem_of_mem_addTo {source : ConfigSource} {path given : Path}
    {groups : List (ConfigSource × List Path)} {entry : ConfigSource × List Path}
    (mem : entry ∈ addTo source path groups) (inEntry : given ∈ entry.2) :
    given = path ∨ ∃ known ∈ groups, given ∈ known.2 := by
  induction groups with
  | nil =>
    rw [addTo, List.mem_singleton] at mem
    rw [mem] at inEntry
    exact .inl (List.mem_singleton.mp inEntry)
  | cons first groups ih =>
    obtain ⟨known, before⟩ := first
    unfold addTo at mem
    split at mem
    · rcases List.mem_cons.mp mem with rfl | mem
      · rcases List.mem_append.mp inEntry with inEntry | inEntry
        · exact .inr ⟨_, List.mem_cons_self, inEntry⟩
        · exact .inl (List.mem_singleton.mp inEntry)
      · exact .inr ⟨entry, List.mem_cons_of_mem _ mem, inEntry⟩
    · rcases List.mem_cons.mp mem with rfl | mem
      · exact .inr ⟨_, List.mem_cons_self, inEntry⟩
      · exact (ih mem).imp_right fun ⟨group, mem, inGroup⟩ =>
          ⟨group, List.mem_cons_of_mem _ mem, inGroup⟩

theorem mem_of_mem_groups {entry : ConfigSource × List Path} {given : Path}
    (mem : entry ∈ groups w named paths) (inEntry : given ∈ entry.2) : given ∈ paths := by
  have grown : ∀ known, entry ∈ paths.foldl
      (fun groups path => addTo (locate w named path) path groups) known →
      given ∈ paths ∨ ∃ group ∈ known, given ∈ group.2 := by
    clear mem
    induction paths with
    | nil => exact fun known mem => .inr ⟨entry, mem, inEntry⟩
    | cons path paths ih =>
      intro known mem
      rcases ih _ mem with later | ⟨group, mem, inGroup⟩
      · exact .inl (List.mem_cons_of_mem _ later)
      · rcases mem_of_mem_addTo mem inGroup with rfl | before
        · exact .inl List.mem_cons_self
        · exact .inr before
  refine (grown [] mem).resolve_right ?_
  rintro ⟨group, none, -⟩
  exact absurd none List.not_mem_nil

end ConfigSource

namespace Batch

open Command (filesOf lintBatches correctBatches)

variable {w : Workspace} {parser : Parser} {named : Option Path} {seen paths : List Path}
  {groups : List ConfigGroup} {batches : List Batch}

theorem mem_of_resolve (h : resolve w named paths = .ok groups) {group : ConfigGroup}
    (mem : group ∈ groups) : ∀ given ∈ group.paths, given ∈ paths := by
  intro given inGroup
  obtain ⟨⟨source, own⟩, inGroups, loaded⟩ :=
    exists_of_mapM_eq_ok (mapError_eq_ok_iff.mp h) group mem
  obtain ⟨config, -, same⟩ := bind_eq_ok_iff.mp loaded
  obtain rfl := Except.ok.inj same
  exact ConfigSource.mem_of_mem_groups inGroups inGroup

/-- The files of all batches are those of paths that make different steps. -/
theorem exists_paths_of_ofGroups (h : ofGroups w parser seen groups = .ok batches) :
    ∃ paths : List Path, filesOf batches = Discovery.load w parser paths ∧
      paths.Pairwise (fun a b => a.components ≠ b.components) ∧
      ∀ path ∈ paths, (∃ group ∈ groups, group.Finds w path) ∧
        ∀ taken ∈ seen, taken.components ≠ path.components := by
  -- along the groups, whatever was taken before them
  induction groups generalizing seen batches with
  | nil =>
    obtain rfl := Except.ok.inj h
    exact ⟨[], rfl, .nil, by simp⟩
  | cons group groups ih =>
    obtain ⟨first, analyzer, others, reaches, -, later, rfl⟩ := ofGroups_cons_eq_ok_iff.mp h
    obtain ⟨rest, loaded, distinct, each⟩ := ih later
    obtain ⟨found, discovered, rfl⟩ := reached_eq_ok_iff.mp reaches
    have ascending := (Discovery.discover_ascending discovered).filter
      fun path => !seen.any path.isSame
    refine ⟨_ ++ rest, ?_, List.pairwise_append.mpr ⟨ascending.imp And.right, distinct, ?_⟩, ?_⟩
    · rw [Discovery.load_append, ← loaded]
      rfl
    · intro path mem other later
      exact (each other later).2 path (List.mem_append_right _ mem)
    · intro path mem
      rcases List.mem_append.mp mem with mem | later
      · obtain ⟨mem, fresh⟩ := List.mem_filter.mp mem
        refine ⟨⟨group, List.mem_cons_self, found, discovered, mem⟩, fun taken inSeen same => ?_⟩
        rw [Bool.not_eq_true', List.any_eq_false] at fresh
        exact fresh taken inSeen (beq_iff_eq.mpr same.symm)
      · obtain ⟨⟨other, inGroups, finds⟩, fresh⟩ := each path later
        exact ⟨⟨other, List.mem_cons_of_mem _ inGroups, finds⟩,
          fun taken inSeen => fresh taken (List.mem_append_left _ inSeen)⟩

/-! One report for each file. -/

theorem files_concat (runs : List RunReport) :
    (RunReport.concat runs).files = runs.flatMap RunReport.files := by
  have grown (before : RunReport) : (runs.foldl (· ++ ·) before).files =
      before.files ++ runs.flatMap RunReport.files := by
    induction runs generalizing before with
    | nil => simp
    | cons run runs ih =>
      rw [List.foldl_cons, ih, List.flatMap_cons, ← List.append_assoc]
      rfl
  exact grown .empty

/-- What is said of the files of all batches goes with these files one by one. -/
theorem zip_filesOf {α : Type} (told : Batch → SourceFile → α) :
    (batches.flatMap fun batch => batch.files.map (told batch)).zip (filesOf batches) =
      batches.flatMap fun batch => batch.files.map fun file => (told batch file, file) := by
  unfold filesOf
  induction batches with
  | nil => rfl
  | cons batch batches ih =>
    rw [List.flatMap_cons, List.flatMap_cons, List.flatMap_cons,
      List.zip_append (List.length_map _), ih, List.map_prod_right_eq_zip]

theorem map_path_lint {analyzer : Analyzer} {files : List SourceFile} {run : RunReport}
    (h : analyzer.lint files = .ok run) :
    run.files.map FileReport.path = files.map SourceFile.path := by
  obtain ⟨index, -, same⟩ := bind_eq_ok_iff.mp h
  obtain rfl := Except.ok.inj same
  rw [List.map_map]
  exact List.map_congr_left fun file _ => (Analyzer.lintWith_tellsOf analyzer index file).path

theorem map_path_correct {analyzer : Analyzer} {files corrected : List SourceFile}
    {run : RunReport} (h : analyzer.correct files = .ok (corrected, run)) :
    run.files.map FileReport.path = files.map SourceFile.path := by
  obtain ⟨index, -, same⟩ := bind_eq_ok_iff.mp h
  obtain ⟨-, rfl⟩ := Prod.mk.inj (Except.ok.inj same)
  rw [List.map_map, List.map_map]
  exact List.map_congr_left fun file _ => (Analyzer.correctWith_tellsOf analyzer index file).1.path

theorem map_path_lintBatches {run : RunReport} (h : lintBatches batches = .ok run) :
    run.files.map FileReport.path = (filesOf batches).map SourceFile.path := by
  obtain ⟨runs, linted, same⟩ := bind_eq_ok_iff.mp h
  obtain rfl := Except.ok.inj same
  rw [mapM_eq_ok_iff] at linted
  rw [files_concat, filesOf]
  clear h same
  induction batches generalizing runs with
  | nil =>
    cases runs with
    | nil => rfl
    | cons run runs => cases linted
  | cons batch batches ih =>
    cases runs with
    | nil => cases linted
    | cons run runs =>
      obtain ⟨now, later⟩ := List.cons.inj linted
      rw [List.flatMap_cons, List.flatMap_cons, List.map_append, List.map_append,
        map_path_lint now, ih runs later]

theorem exists_of_correctBatches_cons {w after : Workspace} {dryRun : Bool} {batch : Batch}
    {run : RunReport} (h : correctBatches w dryRun (batch :: batches) = .ok (after, run)) :
    ∃ w' files first rest, batch.analyzer.correct batch.files = .ok (files, first) ∧
      correctBatches w' dryRun batches = .ok (after, rest) ∧ run = first ++ rest := by
  unfold correctBatches at h
  obtain ⟨⟨files, first⟩, corrected, h⟩ := bind_eq_ok_iff.mp h
  dsimp only at h
  split at h
  all_goals
    obtain ⟨w', -, h⟩ := bind_eq_ok_iff.mp h
    obtain ⟨⟨last, rest⟩, later, h⟩ := bind_eq_ok_iff.mp h
    obtain ⟨rfl, rfl⟩ := Prod.mk.inj (Except.ok.inj h)
    exact ⟨w', files, first, rest, mapError_eq_ok_iff.mp corrected, later, rfl⟩

theorem map_path_correctBatches {w after : Workspace} {dryRun : Bool} {run : RunReport}
    (h : correctBatches w dryRun batches = .ok (after, run)) :
    run.files.map FileReport.path = (filesOf batches).map SourceFile.path := by
  induction batches generalizing w run with
  | nil =>
    obtain ⟨-, rfl⟩ := Prod.mk.inj (Except.ok.inj h)
    rfl
  | cons batch batches ih =>
    obtain ⟨w', files, first, rest, corrected, later, rfl⟩ := exists_of_correctBatches_cons h
    have together : (first ++ rest).files = first.files ++ rest.files := rfl
    rw [together, List.map_append, map_path_correct corrected, ih later, filesOf, filesOf,
      List.flatMap_cons, List.map_append]

theorem lenient_of_ofGroups (h : ofGroups w parser seen groups = .ok batches) :
    ∀ batch ∈ batches, batch.analyzer.failsOnParseError = false := by
  induction groups generalizing seen batches with
  | nil =>
    obtain rfl := Except.ok.inj h
    exact fun batch mem => absurd mem List.not_mem_nil
  | cons group groups ih =>
    obtain ⟨first, analyzer, others, -, built, later, rfl⟩ := ofGroups_cons_eq_ok_iff.mp h
    have lenient := (Analyzer.isBuiltIn_of_build (mapError_eq_ok_iff.mp built)).1
    exact List.forall_mem_cons.mpr ⟨lenient, ih later⟩

theorem exists_lintBatches (lenient : ∀ batch ∈ batches, batch.analyzer.failsOnParseError = false) :
    ∃ run, lintBatches batches = .ok run ∧
      run.files.map FileReport.path = (filesOf batches).map SourceFile.path := by
  have lints : ∀ batch ∈ batches, ∃ run, batch.analyzer.lint batch.files = .ok run :=
    fun batch mem => ⟨_, Analyzer.lint_of_lenient (lenient batch mem) batch.files⟩
  obtain ⟨runs, linted, -⟩ := exists_mapM lints
  have made : lintBatches batches = .ok (RunReport.concat runs) :=
    bind_eq_ok_iff.mpr ⟨runs, linted, rfl⟩
  exact ⟨_, made, map_path_lintBatches made⟩

/-- No path is taken twice, and there is one report for each file that is taken. If the paths of the
command line are spelled alike, and no included pattern goes up, then no file is taken twice. -/
theorem loads_each_file_once (w : Workspace) (parser : Parser) (named : Option Path)
    (paths : List Path) (batches : List Batch) (wellNamed : w.tree.WellNamed)
    (made : ofPaths w parser named paths = .ok batches) :
    (∀ file ∈ filesOf batches, ∃ location, file.IsFrom w location) ∧
    (filesOf batches).Pairwise (fun a b => ∃ p q : Path,
      a.path = some p.text ∧ b.path = some q.text ∧ p.components ≠ q.components) ∧
    (∃ run, lintBatches batches = .ok run ∧
      run.files.map FileReport.path = (filesOf batches).map SourceFile.path) ∧
    (∀ dryRun after run, correctBatches w dryRun batches = .ok (after, run) →
      run.files.map FileReport.path = (filesOf batches).map SourceFile.path) ∧
    (w.SpelledAlike paths → (∀ groups, resolve w named paths = .ok groups → ∀ group ∈ groups,
        ∀ pattern ∈ Discovery.included group.config, Discovery.StaysBelow pattern) →
      (filesOf batches).Pairwise fun a b =>
        ∀ location, a.IsFrom w location → ¬b.IsFrom w location) := by
  obtain ⟨groups, resolved, made⟩ := bind_eq_ok_iff.mp made
  obtain ⟨own, loaded, distinct, each⟩ := exists_paths_of_ofGroups made
  refine ⟨fun file mem => ?_, ?_, exists_lintBatches (lenient_of_ofGroups made),
    fun dryRun after run => map_path_correctBatches, fun alike below => ?_⟩
  · rw [loaded] at mem
    obtain ⟨path, -, text, read, rfl⟩ := Discovery.mem_load.mp mem
    obtain ⟨location, there⟩ := Workspace.exists_location_of_read read
    exact ⟨location, path, rfl, there⟩
  · rw [loaded]
    exact Discovery.load_pairwise distinct
  · rw [loaded]
    have origin : ∀ path ∈ own, ∃ given ∈ paths, w.GoesOn given path := by
      intro path mem
      obtain ⟨⟨group, inGroups, found, discovered, mem⟩, -⟩ := each path mem
      obtain ⟨given, inGroup, goesOn⟩ :=
        Discovery.exists_origin wellNamed (below groups resolved group inGroups) discovered mem
      exact ⟨given, mem_of_resolve resolved inGroups given inGroup, goesOn⟩
    have apart : own.Pairwise fun p q => ∀ location,
        w.locate p = .ok location → w.locate q ≠ .ok location := by
      refine distinct.imp_of_mem fun {p q} mem mem' differ location there there' => differ ?_
      obtain ⟨given, inPaths, goesOn⟩ := origin p mem
      obtain ⟨given', inPaths', goesOn'⟩ := origin q mem'
      exact alike.components_eq inPaths inPaths' goesOn goesOn' there there'
    refine (Discovery.load_pairwise apart).imp ?_
    rintro a b ⟨p, q, fromP, fromQ, apart⟩ location ⟨p', fromP', there⟩ ⟨q', fromQ', there'⟩
    obtain rfl : p = p' := congrArg Path.mk (Option.some.inj (fromP.symm.trans fromP'))
    obtain rfl : q = q' := congrArg Path.mk (Option.some.inj (fromQ.symm.trans fromQ'))
    exact apart location there there'

theorem loads_each_file_once_generated :
    Discovery.generatedBeside.tree.WellNamed ∧
    Discovery.generatedBeside.SpelledAlike [⟨"d/Gen.swift"⟩, ⟨"d"⟩] ∧
    ∃ batch, ofPaths Discovery.generatedBeside Analyzer.conformer.parser none
        [⟨"d/Gen.swift"⟩, ⟨"d"⟩] = .ok [batch] ∧
      batch.files.map SourceFile.path = [some "d/Gen.swift", some "d/a.swift"] ∧
      batch.files.Pairwise fun a b => ∀ location,
        a.IsFrom Discovery.generatedBeside location →
          ¬b.IsFrom Discovery.generatedBeside location := by
  have wellNamed : Discovery.generatedBeside.tree.WellNamed := by
    simp only [Discovery.generatedBeside, FileTree.WellNamed, FileTree.WellNamedIn]
    decide
  have alike : Discovery.generatedBeside.SpelledAlike [⟨"d/Gen.swift"⟩, ⟨"d"⟩] :=
    Workspace.spelledAlike_of_plain (by decide +kernel) (by decide +kernel) (by decide +kernel)
  have resolved : resolve Discovery.generatedBeside none [⟨"d/Gen.swift"⟩, ⟨"d"⟩] =
      .ok [⟨.default, Config.default, [⟨"d/Gen.swift"⟩, ⟨"d"⟩]⟩] := rfl
  have sorted : Path.sorted [⟨"d/Gen.swift"⟩, ⟨"d/Gen.swift"⟩, ⟨"d/a.swift"⟩] =
      [⟨"d/Gen.swift"⟩, ⟨"d/a.swift"⟩] :=
    (Path.sorted_of_ordered (by decide +kernel)).trans (by decide +kernel)
  have discovered : Discovery.discover Discovery.generatedBeside Config.default
      [⟨"d/Gen.swift"⟩, ⟨"d"⟩] = .ok [⟨"d/Gen.swift"⟩, ⟨"d/a.swift"⟩] := by
    refine Discovery.discover_eq_ok_iff.mpr
      ⟨[], [[⟨"d/Gen.swift"⟩], [⟨"d/Gen.swift"⟩, ⟨"d/a.swift"⟩]], rfl, ?_, sorted.symm⟩
    rw [← mapM_eq_ok_iff]
    exact eq_ok_of_toOption (by decide +kernel)
  have built := analyzerOf_default
  have made : ofPaths Discovery.generatedBeside Analyzer.conformer.parser none
      [⟨"d/Gen.swift"⟩, ⟨"d"⟩] = .ok [_] :=
    bind_eq_ok_iff.mpr ⟨_, resolved, ofGroups_cons_eq_ok_iff.mpr
      ⟨_, _, [], reached_eq_ok_iff.mpr ⟨_, discovered, rfl⟩, built, rfl, rfl⟩⟩
  obtain ⟨-, -, -, -, once⟩ := loads_each_file_once _ _ none _ _ wellNamed made
  refine ⟨wellNamed, alike, _, made, by decide +kernel, once alike ?_⟩
  rintro groups resolved' group mem pattern given
  obtain rfl := Except.ok.inj (resolved.symm.trans resolved')
  rw [List.mem_singleton.mp mem] at given
  rw [List.mem_singleton.mp given]
  exact Discovery.staysBelow_swift

/-- A directory with a configuration of its own. -/
def configuredBelow : Workspace where
  tree := .directory [("d", .directory [("a.swift", .file (.text "struct C: A")),
    ("style-lint.toml", .file (.text ""))])]
  directory := []
  configDirectory := none

/-- A file behind a dot is taken again with the directory it is in: in one group, and by a second
group as well. -/
theorem loads_again_behind_dot :
    (∃ batch, ofPaths configuredBelow Analyzer.conformer.parser none
        [⟨"./d/a.swift"⟩, ⟨"d"⟩] = .ok [batch] ∧
      batch.files.map SourceFile.path = [some "./d/a.swift", some "d/a.swift"] ∧
      ¬(filesOf [batch]).Pairwise fun a b => ∀ location,
        a.IsFrom configuredBelow location → ¬b.IsFrom configuredBelow location) ∧
    ∃ first second, ofPaths configuredBelow Analyzer.conformer.parser none
        [⟨"./d/a.swift"⟩, ⟨"."⟩] = .ok [first, second] ∧
      first.files.map SourceFile.path = [some "./d/a.swift"] ∧
      second.files.map SourceFile.path = [some "d/a.swift"] ∧
      ¬(filesOf [first, second]).Pairwise (fun a b => ∀ location,
        a.IsFrom configuredBelow location → ¬b.IsFrom configuredBelow location) ∧
      Analyzer.counts (lintBatches [first, second]) = some [1, 1] := by
  have built := analyzerOf_default
  have there : configuredBelow.locate ⟨"./d/a.swift"⟩ = .ok ["d", "a.swift"] := rfl
  have there' : configuredBelow.locate ⟨"d/a.swift"⟩ = .ok ["d", "a.swift"] := rfl
  constructor
  · have resolved : resolve configuredBelow none [⟨"./d/a.swift"⟩, ⟨"d"⟩] =
        .ok [⟨.project ⟨"/d/style-lint.toml"⟩, Config.default, [⟨"./d/a.swift"⟩, ⟨"d"⟩]⟩] := rfl
    have both : Path.sorted [⟨"./d/a.swift"⟩, ⟨"d/a.swift"⟩] = [⟨"./d/a.swift"⟩, ⟨"d/a.swift"⟩] :=
      (Path.sorted_of_ordered (by decide +kernel)).trans (by decide +kernel)
    have discovered : Discovery.discover configuredBelow Config.default
        [⟨"./d/a.swift"⟩, ⟨"d"⟩] = .ok [⟨"./d/a.swift"⟩, ⟨"d/a.swift"⟩] := by
      refine Discovery.discover_eq_ok_iff.mpr
        ⟨[], [[⟨"./d/a.swift"⟩], [⟨"d/a.swift"⟩]], rfl, ?_, both.symm⟩
      rw [← mapM_eq_ok_iff]
      exact eq_ok_of_toOption (by decide +kernel)
    refine ⟨_, bind_eq_ok_iff.mpr ⟨_, resolved, ofGroups_cons_eq_ok_iff.mpr ⟨_, _, [],
      reached_eq_ok_iff.mpr ⟨_, discovered, rfl⟩, built, rfl, rfl⟩⟩, ?_, fun apart => ?_⟩
    · decide +kernel
    · exact (List.pairwise_cons.mp apart).1 _ List.mem_cons_self ["d", "a.swift"]
        ⟨⟨"./d/a.swift"⟩, rfl, there⟩ ⟨⟨"d/a.swift"⟩, rfl, there'⟩
  · have resolved : resolve configuredBelow none [⟨"./d/a.swift"⟩, ⟨"."⟩] =
        .ok [⟨.project ⟨"/d/style-lint.toml"⟩, Config.default, [⟨"./d/a.swift"⟩]⟩,
          ⟨.default, Config.default, [⟨"."⟩]⟩] := rfl
    have alone : Discovery.discover configuredBelow Config.default [⟨"./d/a.swift"⟩] =
        .ok [⟨"./d/a.swift"⟩] := eq_ok_of_toOption (by decide +kernel)
    have below : Discovery.discover configuredBelow Config.default [⟨"."⟩] =
        .ok [⟨"d/a.swift"⟩] := eq_ok_of_toOption (by decide +kernel)
    refine ⟨_, _, bind_eq_ok_iff.mpr ⟨_, resolved, ofGroups_cons_eq_ok_iff.mpr ⟨_, _, _,
      reached_eq_ok_iff.mpr ⟨_, alone, rfl⟩, built, ofGroups_cons_eq_ok_iff.mpr ⟨_, _, [],
        reached_eq_ok_iff.mpr ⟨_, below, rfl⟩, built, rfl, rfl⟩, rfl⟩⟩, ?_, ?_, fun apart => ?_, ?_⟩
    · decide +kernel
    · decide +kernel
    · exact (List.pairwise_cons.mp apart).1 _ List.mem_cons_self ["d", "a.swift"]
        ⟨⟨"./d/a.swift"⟩, rfl, there⟩ ⟨⟨"d/a.swift"⟩, rfl, there'⟩
    · decide +kernel

end Batch

end SwiftStyle
