import SwiftStyle.Proofs.Analyzer.Alone
import SwiftStyle.Proofs.Batch.Distinct
import SwiftStyle.Proofs.Workspace.Overwriting

/-!
What correcting files does to a workspace. All batches are there before the first file is written,
and each of them has the texts that were read then, so that a file that is written for one batch is
not seen by the next. One file may be in two batches under paths that are spelled differently; the
only edits are those that put visibility first, which hang on nothing but the text, so that both
batches write the same.
-/

namespace SwiftStyle

/-! The edits of an analyzer. -/

/-- No section changes what edits a built-in rule requests. -/
theorem Rule.edits?_of_configure {config : Config} {rule ready : Rule} (mem : rule ∈ builtin)
    (h : config.configure rule = .ok ready) : ready.behaviour.edits? = rule.behaviour.edits? := by
  rcases Config.behaviour_of_configure h with same | ⟨s, accepted⟩
  · rw [same]
  · simp only [builtin, List.mem_cons, List.not_mem_nil, or_false] at mem
    rcases mem with rfl | rfl | rfl
    all_goals
      obtain ⟨r, -, same⟩ := exists_of_map_eq_ok accepted
      rw [← same]
      rfl

/-- What putting visibility first makes of a text hangs on nothing but the text. -/
theorem VisibilityOrder.text_ordered_congr {file file' : SourceFile}
    (sameText : file.text = file'.text) (sameParser : file.parser = file'.parser) :
    (file.applyEdits (edits file)).1.text = (file'.applyEdits (edits file')).1.text := by
  obtain ⟨path, text, parser⟩ := file
  obtain ⟨path', text', parser'⟩ := file'
  obtain rfl := sameText
  obtain rfl := sameParser
  rw [Edit.applyEdits_eq, Edit.applyEdits_eq]
  rfl

namespace Analyzer

variable {config : Config} {fails : Bool} {analyzer : Analyzer}

/-- An analyzer requests no edits, or those that put visibility first. -/
theorem edits_of_build (built : build Rule.builtin config fails = .ok analyzer) :
    (∀ index file, analyzer.edits index file = []) ∨
      ∀ index file, analyzer.edits index file = VisibilityOrder.edits file := by
  obtain ⟨-, configured, ready, rfl⟩ := build_eq_ok_iff.mp built
  obtain ⟨lines, order, docs, rfl⟩ : ∃ lines order docs, configured = [lines, order, docs] := by
    have length := congrArg List.length ready
    simp only [List.length_map] at length
    exact List.length_eq_three.mp length.symm
  simp only [Rule.builtin, List.map_cons, List.map_nil, List.cons.injEq] at ready
  obtain ⟨linesReady, orderReady, docsReady, -⟩ := ready
  have ofLines := Rule.edits?_of_configure (by simp [Rule.builtin]) linesReady
  have ofOrder := Rule.edits?_of_configure (by simp [Rule.builtin]) orderReady
  have ofDocs := Rule.edits?_of_configure (by simp [Rule.builtin]) docsReady
  have others (index : DeclarationIndex) (file : SourceFile) :
      lines.edits file index = [] ∧ docs.edits file index = [] := by
    simp only [Rule.edits, ofLines, ofDocs]
    exact ⟨rfl, rfl⟩
  have own (index : DeclarationIndex) (file : SourceFile) :
      order.edits file index = VisibilityOrder.edits file := by
    simp only [Rule.edits, ofOrder]
    rfl
  by_cases enabled : config.isEnabled order.id = true
  · right
    intro index file
    simp only [edits, List.filter_cons, enabled, if_true, List.filter_nil]
    split <;> split <;> simp [others, own]
  · left
    intro index file
    simp only [edits, List.filter_cons, enabled, Bool.false_eq_true, if_false, List.filter_nil]
    split <;> split <;> simp [others]

/-- A text becomes the same under all analyzers that change it. -/
theorem text_correctWith_of_build (built : build Rule.builtin config fails = .ok analyzer)
    (index : DeclarationIndex) (file : SourceFile) :
    (analyzer.correctWith index file).1.text = file.text ∨
      (analyzer.correctWith index file).1.text =
        (file.applyEdits (VisibilityOrder.edits file)).1.text := by
  unfold correctWith
  split
  · exact .inl rfl
  · rcases edits_of_build built with none | all
    · left
      rw [none, SourceFile.applyEdits_of_rejected (by simp)]
    · right
      rw [all]

end Analyzer

/-! Where files come from. -/

theorem SourceFile.path_applyEdits (file : SourceFile) (edits : List Edit) :
    (file.applyEdits edits).1.path = file.path := by
  rw [Edit.applyEdits_eq]
  rfl

theorem SourceFile.IsFrom.unique {w : Workspace} {file : SourceFile} {location other : List String}
    (from_ : file.IsFrom w location) (from' : file.IsFrom w other) : location = other := by
  obtain ⟨path, named, there⟩ := from_
  obtain ⟨path', named', there'⟩ := from'
  obtain rfl : path = path' := congrArg Path.mk (Option.some.inj (named.symm.trans named'))
  exact Except.ok.inj (there.symm.trans there')

theorem Workspace.read_eq_ok_iff {w : Workspace} {path : Path} {text : String} :
    w.read path = .ok text ↔
      ∃ location, w.locate path = .ok location ∧
        w.tree.find? location = some (.file (.text text)) := by
  unfold read get
  cases w.locate path with
  | error error => simp [bind, Except.bind]
  | ok location =>
    simp only [bind, Except.bind, Except.ok.injEq, exists_eq_left']
    cases w.tree.find? location with
    | none => simp
    | some below =>
      rcases below with ⟨text | bytes⟩ | entries <;> simp [pure, Except.pure]

namespace Batch

open Command (filesOf correctBatches correctionLines listCorrections writeChanged)

variable {w after : Workspace} {parser : Parser} {groups : List ConfigGroup} {batch : Batch}
  {batches : List Batch} {seen : List Path} {file : SourceFile} {files : List SourceFile}
  {change : SourceFile → SourceFile} {location : List String} {text : String}

/-- What a batch makes of one of its files, with the report on it. -/
def corrected (batch : Batch) (file : SourceFile) : SourceFile × FileReport :=
  batch.analyzer.correctWith (Analyzer.indexOf batch.files) file

/-- Whether one of some files comes from a location and gets a text that is new to it. -/
def Renews (w : Workspace) (change : SourceFile → SourceFile) (files : List SourceFile)
    (location : List String) (text : String) : Prop :=
  ∃ file ∈ files, file.IsFrom w location ∧ (change file).text = text ∧ text ≠ file.text

/-- Whether a batch has a file from a location and gives it a text that is new to it. -/
def Rewrites (w : Workspace) (batches : List Batch) (location : List String) (text : String) :
    Prop :=
  ∃ batch ∈ batches, Renews w (fun file => (batch.corrected file).1) batch.files location text

/-- Whether files come from locations in a workspace where there are files. -/
def AreThere (w : Workspace) (files : List SourceFile) : Prop :=
  ∀ file ∈ files, ∃ location, file.IsFrom w location ∧ w.tree.IsFile location

/-- Whether each location gets one text at most. -/
def Agrees (texts : List String → String → Prop) : Prop :=
  ∀ location text text', texts location text → texts location text' → text = text'

theorem Agrees.mono {texts texts' : List String → String → Prop} (h : Agrees texts)
    (fewer : ∀ location text, texts' location text → texts location text) : Agrees texts' :=
  fun location text text' new new' =>
    h location text text' (fewer location text new) (fewer location text' new')

theorem renews_cons_iff : Renews w change (file :: files) location text ↔
    (file.IsFrom w location ∧ (change file).text = text ∧ text ≠ file.text) ∨
      Renews w change files location text := by
  simp only [Renews, List.mem_cons, exists_eq_or_imp]

theorem rewrites_cons_iff : Rewrites w (batch :: batches) location text ↔
    Renews w (fun file => (batch.corrected file).1) batch.files location text ∨
      Rewrites w batches location text := by
  simp only [Rewrites, List.mem_cons, exists_eq_or_imp]

/-! Files that are written do not move. -/

section

variable {texts : List String → String → Prop} (overwrites : w.Overwrites texts after)

include overwrites

theorem isFrom_overwritten : file.IsFrom after location ↔ file.IsFrom w location := by
  refine exists_congr fun path => and_congr_right fun _ => ?_
  rw [overwrites.locate_eq]

theorem renews_overwritten : Renews after change files = Renews w change files := by
  funext location text
  simp only [Renews, isFrom_overwritten overwrites]

theorem rewrites_overwritten : Rewrites after batches = Rewrites w batches := by
  funext location text
  simp only [Rewrites, renews_overwritten overwrites]

theorem areThere_overwritten : AreThere after files ↔ AreThere w files := by
  simp only [AreThere, isFrom_overwritten overwrites, overwrites.sameShape.isFile_iff]

end

/-! Batch by batch. -/

/-- Files that are there are written one after the other. -/
theorem exists_writeChanged (samePath : ∀ file, (change file).path = file.path)
    (ordered : w.tree.Ordered) (there : AreThere w files) (agrees : Agrees (Renews w change files)) :
    ∃ after, writeChanged w (files.zip (files.map change)) = .ok after ∧
      w.Overwrites (Renews w change files) after := by
  induction files generalizing w with
  | nil => exact ⟨w, rfl, .refl ordered fun location text ⟨file, mem, _⟩ => nomatch mem⟩
  | cons file files ih =>
    obtain ⟨⟨location, ⟨path, named, leads⟩, isFile⟩, thereRest⟩ := List.forall_mem_cons.mp there
    have agreesRest : Agrees (Renews w change files) :=
      agrees.mono fun location text later => renews_cons_iff.mpr (.inr later)
    rw [List.map_cons, List.zip_cons_cons, writeChanged, samePath, named]
    dsimp only
    by_cases same : file.text = (change file).text
    · rw [if_pos same]
      obtain ⟨after, writes, overwrites⟩ := ih ordered thereRest agreesRest
      refine ⟨after, writes, overwrites.congr fun location text => ?_⟩
      rw [renews_cons_iff]
      refine or_iff_right ?_
      rintro ⟨-, becomes, new⟩
      exact new (becomes.symm.trans same.symm)
    · rw [if_neg same]
      obtain ⟨middle, write, first⟩ :=
        Workspace.exists_write ordered leads isFile (change file).text
      rw [write]
      have sameRest : Renews middle change files = Renews w change files :=
        renews_overwritten first
      obtain ⟨after, writes, second⟩ := ih first.ordered
        ((areThere_overwritten first).mpr thereRest) (sameRest ▸ agreesRest)
      rw [sameRest] at second
      have now (other : List String) (text : String) :
          (file.IsFrom w other ∧ (change file).text = text ∧ text ≠ file.text) ↔
            other = location ∧ text = (change file).text := by
        constructor
        · rintro ⟨from_, becomes, -⟩
          exact ⟨from_.unique ⟨path, named, leads⟩, becomes.symm⟩
        · rintro ⟨rfl, rfl⟩
          exact ⟨⟨path, named, leads⟩, rfl, Ne.symm same⟩
      refine ⟨after, writes, (first.trans second ?_).congr fun other text => ?_⟩
      · intro other text text' new later
        exact agrees other text text' (renews_cons_iff.mpr (.inl ((now other text).mpr new)))
          (renews_cons_iff.mpr (.inr later))
      · rw [renews_cons_iff, now]

/-- What correcting all batches says of their files. -/
def correctionReport (batches : List Batch) : RunReport :=
  ⟨batches.flatMap fun batch => batch.files.map fun file => (batch.corrected file).2⟩

theorem path_corrected (batch : Batch) (file : SourceFile) :
    (batch.corrected file).1.path = file.path ∧ (batch.corrected file).2.path = file.path := by
  refine ⟨?_, (Analyzer.correctWith_tellsOf _ _ file).1.path⟩
  unfold corrected Analyzer.correctWith
  split
  · rfl
  · exact SourceFile.path_applyEdits _ _

theorem correct_files (lenient : batch.analyzer.failsOnParseError = false) :
    batch.analyzer.correct batch.files = .ok (batch.files.map fun file => (batch.corrected file).1,
      ⟨batch.files.map fun file => (batch.corrected file).2⟩) := by
  rw [Analyzer.correct_of_index (Analyzer.index_of_lenient lenient batch.files), List.map_map,
    List.map_map]
  rfl

theorem correctBatches_cons {dryRun : Bool} {rest : RunReport} {middle : Workspace}
    (lenient : batch.analyzer.failsOnParseError = false)
    (writes : (if dryRun then .ok w else writeChanged w (batch.files.zip
      (batch.files.map fun file => (batch.corrected file).1))) = .ok middle)
    (later : correctBatches middle dryRun batches = .ok (after, rest)) :
    correctBatches w dryRun (batch :: batches) =
      .ok (after, ⟨batch.files.map fun file => (batch.corrected file).2⟩ ++ rest) := by
  unfold correctBatches
  rw [correct_files lenient]
  refine bind_eq_ok_iff.mpr ⟨_, rfl, ?_⟩
  cases dryRun
  all_goals exact bind_eq_ok_iff.mpr ⟨middle, writes, bind_eq_ok_iff.mpr ⟨_, later, rfl⟩⟩

theorem correctBatches_dry (lenient : ∀ batch ∈ batches, batch.analyzer.failsOnParseError = false) :
    correctBatches w true batches = .ok (w, correctionReport batches) := by
  induction batches with
  | nil => rfl
  | cons batch batches ih =>
    obtain ⟨now, later⟩ := List.forall_mem_cons.mp lenient
    exact correctBatches_cons now rfl (ih later)

theorem exists_correctBatches
    (lenient : ∀ batch ∈ batches, batch.analyzer.failsOnParseError = false)
    (ordered : w.tree.Ordered) (there : ∀ batch ∈ batches, AreThere w batch.files)
    (agrees : Agrees (Rewrites w batches)) :
    ∃ after, correctBatches w false batches = .ok (after, correctionReport batches) ∧
      w.Overwrites (Rewrites w batches) after := by
  induction batches generalizing w with
  | nil => exact ⟨w, rfl, .refl ordered fun location text ⟨batch, mem, _⟩ => nomatch mem⟩
  | cons batch batches ih =>
    obtain ⟨lenientNow, lenientRest⟩ := List.forall_mem_cons.mp lenient
    obtain ⟨thereNow, thereRest⟩ := List.forall_mem_cons.mp there
    obtain ⟨middle, writes, first⟩ := exists_writeChanged
      (fun file => (path_corrected batch file).1) ordered thereNow
      (agrees.mono fun location text now => rewrites_cons_iff.mpr (.inl now))
    have sameRest : Rewrites middle batches = Rewrites w batches := rewrites_overwritten first
    obtain ⟨after, corrects, second⟩ := ih lenientRest first.ordered
      (fun other mem => (areThere_overwritten first).mpr (thereRest other mem))
      (sameRest ▸ agrees.mono fun location text later => rewrites_cons_iff.mpr (.inr later))
    rw [sameRest] at second
    refine ⟨after, correctBatches_cons lenientNow writes corrects,
      (first.trans second ?_).congr fun location text => rewrites_cons_iff⟩
    intro location text text' now later
    exact agrees location text text' (rewrites_cons_iff.mpr (.inl now))
      (rewrites_cons_iff.mpr (.inr later))

/-! The list of corrections. -/

/-- How one correction of a file is told. -/
def correctionLine (file : SourceFile) (correction : Correction) : String :=
  let place := correction.location.position.resolve file.text
  s!"{displayName file.path}:{place.line}:{place.column} Corrected {correction.rule.name}"

theorem correctionLines_correctionReport (batches : List Batch) :
    correctionLines (correctionReport batches) (filesOf batches) =
      batches.flatMap fun batch => batch.files.flatMap fun file =>
        (batch.corrected file).2.corrections.map (correctionLine file) := by
  rw [correctionLines, correctionReport, zip_filesOf, List.flatMap_assoc]
  apply List.flatMap_congr
  intro batch _
  rw [List.flatMap_map]
  apply List.flatMap_congr
  intro file _
  simp only [(path_corrected batch file).2]
  rfl

/-! What is loaded. -/

theorem exists_origin_of_ofGroups (made : ofGroups w parser seen groups = .ok batches)
    (inBatches : batch ∈ batches) (inBatch : file ∈ batch.files) :
    file.parser = parser ∧ ∃ location, file.IsFrom w location ∧
      w.tree.find? location = some (.file (.text file.text)) := by
  obtain ⟨paths, loaded, -⟩ := exists_paths_of_ofGroups made
  have mem : file ∈ filesOf batches := List.mem_flatMap.mpr ⟨batch, inBatches, inBatch⟩
  rw [loaded] at mem
  obtain ⟨path, -, text, read, rfl⟩ := Discovery.mem_load.mp mem
  obtain ⟨location, leads, found⟩ := Workspace.read_eq_ok_iff.mp read
  exact ⟨rfl, location, ⟨path, rfl, leads⟩, found⟩

theorem built_of_ofGroups (made : ofGroups w parser seen groups = .ok batches) :
    ∀ batch ∈ batches, ∃ group ∈ groups, analyzerOf group.config = .ok batch.analyzer := by
  induction groups generalizing seen batches with
  | nil =>
    obtain rfl := Except.ok.inj made
    exact fun batch mem => absurd mem List.not_mem_nil
  | cons group groups ih =>
    obtain ⟨paths, analyzer, others, -, built, later, rfl⟩ := ofGroups_cons_eq_ok_iff.mp made
    refine List.forall_mem_cons.mpr ⟨⟨group, List.mem_cons_self, built⟩, fun batch mem => ?_⟩
    obtain ⟨other, inGroups, built⟩ := ih later batch mem
    exact ⟨other, List.mem_cons_of_mem _ inGroups, built⟩

/-- All that change the text at a location make the same of it. -/
theorem agrees_of_ofGroups (made : ofGroups w parser seen groups = .ok batches) :
    Agrees (Rewrites w batches) := by
  have ordered (batch : Batch) (inBatches : batch ∈ batches) (file : SourceFile)
      (new : (batch.corrected file).1.text ≠ file.text) : (batch.corrected file).1.text =
        (file.applyEdits (VisibilityOrder.edits file)).1.text := by
    obtain ⟨group, -, built⟩ := built_of_ofGroups made batch inBatches
    exact (Analyzer.text_correctWith_of_build (mapError_eq_ok_iff.mp built) _ file).resolve_left new
  rintro location text text' ⟨batch, inBatches, file, mem, from_, rfl, new⟩
    ⟨batch', inBatches', file', mem', from', rfl, new'⟩
  rw [ordered batch inBatches file new, ordered batch' inBatches' file' new']
  obtain ⟨sameParser, other, leads, found⟩ := exists_origin_of_ofGroups made inBatches mem
  obtain ⟨sameParser', other', leads', found'⟩ := exists_origin_of_ofGroups made inBatches' mem'
  obtain rfl := from_.unique leads
  obtain rfl := from'.unique leads'
  have sameText : file.text = file'.text := by
    rw [found] at found'
    simpa using found'
  exact VisibilityOrder.text_ordered_congr sameText (sameParser.trans sameParser'.symm)

theorem exists_ofGroups_iff : (∃ batches, ofGroups w parser seen groups = .ok batches) ↔
    ∀ group ∈ groups, (∃ found, Discovery.discover w group.config group.paths = .ok found) ∧
      ∃ analyzer, analyzerOf group.config = .ok analyzer := by
  induction groups generalizing seen with
  | nil => simp [ofGroups]
  | cons group groups ih =>
    rw [List.forall_mem_cons]
    constructor
    · rintro ⟨batches, made⟩
      obtain ⟨paths, analyzer, others, reaches, built, later, -⟩ := ofGroups_cons_eq_ok_iff.mp made
      obtain ⟨found, discovered, -⟩ := reached_eq_ok_iff.mp reaches
      exact ⟨⟨⟨found, discovered⟩, analyzer, built⟩, ih.mp ⟨others, later⟩⟩
    · rintro ⟨⟨⟨found, discovered⟩, analyzer, built⟩, rest⟩
      obtain ⟨others, later⟩ := ih.mpr rest
      exact ⟨_, ofGroups_cons_eq_ok_iff.mpr
        ⟨_, analyzer, others, reached_eq_ok_iff.mpr ⟨found, discovered, rfl⟩, built, later, rfl⟩⟩

/-- If a group cannot be set up then nothing is written, and nothing is by a dry run. A real run
writes the files whose corrected text is another one than they had, and leaves everything else as it
was; what it lists are the corrections of the texts as they were, like the dry run. -/
theorem autocorrect_writes_corrected (w : Workspace) (parser : Parser) (groups : List ConfigGroup)
    (ordered : w.tree.Ordered) :
    ((∃ error, ofGroups w parser [] groups = .error error) ↔ ∃ group ∈ groups,
      (∃ error, Discovery.discover w group.config group.paths = .error error) ∨
        ∃ error, analyzerOf group.config = .error error) ∧
    (∀ named paths error, ofPaths w parser named paths = .error error →
      ∀ dryRun, (Invocation.mk named (.autocorrect paths dryRun)).run w parser =
        .failure w (.setup error)) ∧
    ∀ batches, ofGroups w parser [] groups = .ok batches → ∃ after run,
      (∀ batch ∈ batches, batch.analyzer.correct batch.files =
          .ok (batch.files.map fun file => (batch.corrected file).1,
            ⟨batch.files.map fun file => (batch.corrected file).2⟩) ∧
        ∀ file ∈ batch.files, ∃ location, file.IsFrom w location ∧
          w.tree.find? location = some (.file (.text file.text))) ∧
      correctBatches w true batches = .ok (w, run) ∧
      correctBatches w false batches = .ok (after, run) ∧
      w.Overwrites (Rewrites w batches) after ∧
      correctionLines run (filesOf batches) = (batches.flatMap fun batch =>
        batch.files.flatMap fun file =>
          (batch.corrected file).2.corrections.map (correctionLine file)) ∧
      ∀ named paths, resolve w named paths = .ok groups →
        ∀ dryRun, (Invocation.mk named (.autocorrect paths dryRun)).run w parser =
          .success (if dryRun then w else after)
            (listCorrections dryRun run (filesOf batches)) := by
  refine ⟨?_, fun named paths error fails => (run_of_setup_error fails).2, fun batches made => ?_⟩
  · rw [← not_iff_not, ← exists_ok_iff_not_exists_error, exists_ofGroups_iff]
    simp only [exists_ok_iff_not_exists_error]
    push Not
    rfl
  · have lenient := lenient_of_ofGroups made
    have there (batch : Batch) (inBatches : batch ∈ batches) : AreThere w batch.files := by
      intro file mem
      obtain ⟨-, location, from_, found⟩ := exists_origin_of_ofGroups made inBatches mem
      exact ⟨location, from_, _, found⟩
    have dry := correctBatches_dry (w := w) lenient
    obtain ⟨after, real, overwrites⟩ :=
      exists_correctBatches lenient ordered there (agrees_of_ofGroups made)
    refine ⟨after, correctionReport batches, fun batch mem => ⟨correct_files (lenient batch mem),
      fun file inBatch => (exists_origin_of_ofGroups made mem inBatch).2⟩, dry, real, overwrites,
      correctionLines_correctionReport batches, fun named paths resolved dryRun => ?_⟩
    have loaded : ofPaths w parser named paths = .ok batches :=
      bind_eq_ok_iff.mpr ⟨groups, resolved, made⟩
    simp only [Invocation.run, Command.correctFiles, loaded]
    cases dryRun with
    | true => simp [Except.mapError, bind, Except.bind, dry, pure, Except.pure, filesOf]
    | false => simp [Except.mapError, bind, Except.bind, real, pure, Except.pure, filesOf]

/-- A project in a directory and a file outside of it that cannot be parsed. -/
def projectBeside : Workspace where
  tree := .directory [("b.swift", .file (.text "\x7d")),
    ("d", .directory [("a.swift", .file (.text VisibilityOrder.mixedFile.text)),
      ("style-lint.toml", .file (.text ""))])]
  directory := []
  configDirectory := none

def parsesMixed : Parser := fun text =>
  if text = VisibilityOrder.mixedFile.text then .ok VisibilityOrder.mixedOutline
  else .error ⟨"unexpected", 0⟩

/-- The batches of the file on its own and of the project. -/
def besideProject : Batch where
  analyzer := ⟨Rule.builtin, false⟩
  files := [⟨some "b.swift", "\x7d", parsesMixed⟩]

def inProject : Batch where
  analyzer := ⟨Rule.builtin, false⟩
  files := [⟨some "d/a.swift", VisibilityOrder.mixedFile.text, parsesMixed⟩]

theorem autocorrect_writes_corrected_beside : projectBeside.tree.Ordered ∧
    ∃ after, (∀ dryRun, (Invocation.mk none
        (.autocorrect [⟨"b.swift"⟩, ⟨"d/a.swift"⟩] dryRun)).run projectBeside parsesMixed =
          .success (if dryRun then projectBeside else after)
            ("d/a.swift:1:1 Corrected Function Visibility Order\n" ++
              (if dryRun then "Would apply" else "Applied") ++ " 1 correction(s)\n")) ∧
      after.tree.look? ["d", "a.swift"] =
        some (some (.text "public final func a()\nfinal @x public init()")) ∧
      after.tree.look? ["b.swift"] = some (some (.text "\x7d")) := by
  have ordered : projectBeside.tree.Ordered := by
    simp only [projectBeside, FileTree.Ordered, FileTree.OrderedIn]
    decide
  have resolved : resolve projectBeside none [⟨"b.swift"⟩, ⟨"d/a.swift"⟩] =
      .ok [⟨.default, Config.default, [⟨"b.swift"⟩]⟩,
        ⟨.project ⟨"/d/style-lint.toml"⟩, Config.default, [⟨"d/a.swift"⟩]⟩] := rfl
  have first : Discovery.discover projectBeside Config.default [⟨"b.swift"⟩] =
      .ok [⟨"b.swift"⟩] := eq_ok_of_toOption (by decide +kernel)
  have second : Discovery.discover projectBeside Config.default [⟨"d/a.swift"⟩] =
      .ok [⟨"d/a.swift"⟩] := eq_ok_of_toOption (by decide +kernel)
  have built := analyzerOf_default
  have made : ofGroups projectBeside parsesMixed [] [⟨.default, Config.default, [⟨"b.swift"⟩]⟩,
      ⟨.project ⟨"/d/style-lint.toml"⟩, Config.default, [⟨"d/a.swift"⟩]⟩] =
      .ok [besideProject, inProject] :=
    ofGroups_cons_eq_ok_iff.mpr ⟨_, _, _, reached_eq_ok_iff.mpr ⟨_, first, rfl⟩, built,
      ofGroups_cons_eq_ok_iff.mpr
        ⟨_, _, [], reached_eq_ok_iff.mpr ⟨_, second, rfl⟩, built, rfl, rfl⟩, rfl⟩
  obtain ⟨-, -, runs⟩ := autocorrect_writes_corrected projectBeside parsesMixed _ ordered
  obtain ⟨after, run, -, dry, -, overwrites, -, outcome⟩ := runs _ made
  obtain ⟨-, rfl⟩ := Prod.mk.inj (Except.ok.inj
    (dry.symm.trans (correctBatches_dry (lenient_of_ofGroups made))))
  have rewritten : Rewrites projectBeside [besideProject, inProject] ["d", "a.swift"]
      "public final func a()\nfinal @x public init()" :=
    ⟨inProject, by simp, _, List.mem_cons_self, ⟨⟨"d/a.swift"⟩, rfl, rfl⟩, by decide +kernel,
      by decide +kernel⟩
  refine ⟨ordered, after, fun dryRun => ?_, overwrites.written _ _ rewritten,
    overwrites.kept ["b.swift"] ?_⟩
  · rw [outcome none _ resolved]
    congr 1
    cases dryRun <;> decide +kernel
  · intro text
    rw [rewrites_cons_iff, rewrites_cons_iff]
    rintro (⟨file, mem, -, becomes, new⟩ | ⟨file, mem, from_, -⟩ | ⟨batch, mem, -⟩)
    · rw [List.mem_singleton.mp mem] at becomes new
      exact new (becomes.symm.trans rfl)
    · rw [List.mem_singleton.mp mem] at from_
      exact nomatch from_.unique ⟨⟨"d/a.swift"⟩, rfl, rfl⟩
    · exact nomatch mem

end Batch

end SwiftStyle
