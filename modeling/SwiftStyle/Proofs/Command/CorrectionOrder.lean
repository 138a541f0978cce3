import SwiftStyle.Proofs.Command.Autocorrect
import SwiftStyle.Proofs.Text.PlaceOrder

/-!
The order in which corrections are listed. Those of one file ascend by their offsets in its text as
it was, and places follow the text, so that their lines and columns ascend too.
-/

namespace SwiftStyle

/-- What places are compared by: the line first, then the column. -/
def Place.key (place : Place) : Nat ×ₗ Nat := toLex (place.line, place.column)

namespace Edit

theorem start_isPlace_of_fits {text : List Char} {e : Edit} (fits : e.fits text = true) :
    Text.IsPlace e.start text := by
  obtain ⟨before, middle, after, cut, start, -⟩ := fits_iff.mp fits
  rw [List.append_assoc] at cut
  exact .inl (Text.isBoundary_iff.mpr ⟨before, middle ++ after, cut, start⟩)

theorem corrections_eq_map_applied (file : SourceFile) (edits : List Edit) :
    (file.applyEdits edits).2 = (applied file.text.toList edits).map (correction file) := by
  rw [applyEdits_eq]
  rfl

theorem corrections_ascend (file : SourceFile) (edits : List Edit) :
    ((file.applyEdits edits).2.map fun correction =>
      (correction.location.position.resolve file.text).key).Pairwise (· ≤ ·) := by
  rw [corrections_eq_map_applied, List.map_map]
  apply List.pairwise_map.mpr
  apply (applied_sorted file.text.toList edits).imp_of_mem
  intro a b ha hb ordered
  apply Text.locate_mono
  · omega
  · exact start_isPlace_of_fits (applied_fits ha)
  · exact start_isPlace_of_fits (applied_fits hb)

/-- Edits in the order of the text that leave each other alone are applied as they are. -/
theorem applied_of_apart {text : List Char} {edits : List Edit}
    (fits : ∀ e ∈ edits, e.fits text = true) (apart : edits.Pairwise Apart)
    (ordered : edits.Pairwise Before) : applied text edits = edits := by
  apply List.Perm.eq_of_pairwise _ (applied_before text edits) ordered
    (applied_perm_of_apart fits apart)
  exact fun a b _ _ before after => absurd after before.asymm

end Edit

namespace Command

variable {w after : Workspace} {dryRun : Bool} {batches : List Batch} {run : RunReport}

theorem eq_correctionReport
    (lenient : ∀ batch ∈ batches, batch.analyzer.failsOnParseError = false)
    (h : correctBatches w dryRun batches = .ok (after, run)) :
    run = Batch.correctionReport batches := by
  induction batches generalizing w run with
  | nil =>
    obtain ⟨-, rfl⟩ := Prod.mk.inj (Except.ok.inj h)
    rfl
  | cons batch batches ih =>
    obtain ⟨now, later⟩ := List.forall_mem_cons.mp lenient
    obtain ⟨w', files, first, rest, corrected, others, rfl⟩ :=
      Batch.exists_of_correctBatches_cons h
    rw [Batch.correct_files now] at corrected
    obtain ⟨-, rfl⟩ := Prod.mk.inj (Except.ok.inj corrected)
    rw [ih later others]
    rfl

theorem corrected_ascends (batch : Batch) (file : SourceFile) :
    ((batch.corrected file).2.corrections.map fun correction =>
      (correction.location.position.resolve file.text).key).Pairwise (· ≤ ·) := by
  unfold Batch.corrected Analyzer.correctWith
  split
  · exact .nil
  · exact Edit.corrections_ascend file _

/-- Places follow the order of the text, from character to character and past the end. So the
places that are listed for the corrections of a file have lines that do not descend, and in a line
columns that do not descend. -/
theorem corrections_listed_in_text_order :
    (∀ (cs : List Char) (a b : Nat), a ≤ b → Text.IsPlace a cs → Text.IsPlace b cs →
      toLex (Text.locate a cs) ≤ toLex (Text.locate b cs)) ∧
    ∀ (w : Workspace) (parser : Parser) (config : Option Path) (paths : List Path) (dryRun : Bool)
      (after : Workspace) (listing : String),
      correctFiles w parser config paths dryRun = .ok (after, listing) →
      ∃ batches run, Batch.ofPaths w parser config paths = .ok batches ∧
        correctBatches w dryRun batches = .ok (after, run) ∧
        listing = listCorrections dryRun run (filesOf batches) ∧
        run.files.map FileReport.path = (filesOf batches).map SourceFile.path ∧
        ∀ told ∈ run.files.zip (filesOf batches),
          (told.1.corrections.map fun correction =>
            (correction.location.position.resolve told.2.text).key).Pairwise (· ≤ ·) := by
  constructor
  · exact fun cs a b ordered placeA placeB => Text.locate_mono ordered placeA placeB
  · intro w parser config paths dryRun after listing corrects
    obtain ⟨batches, loads, corrects⟩ := bind_eq_ok_iff.mp corrects
    obtain ⟨⟨after', run⟩, runs, same⟩ := bind_eq_ok_iff.mp corrects
    obtain ⟨rfl, rfl⟩ := Prod.mk.inj (Except.ok.inj same)
    have made := mapError_eq_ok_iff.mp loads
    obtain ⟨groups, -, grouped⟩ := bind_eq_ok_iff.mp made
    refine ⟨batches, run, made, runs, rfl, Batch.map_path_correctBatches runs, ?_⟩
    obtain rfl := eq_correctionReport (Batch.lenient_of_ofGroups grouped) runs
    rw [Batch.correctionReport, Batch.zip_filesOf fun batch file => (batch.corrected file).2]
    intro told mem
    obtain ⟨batch, -, mem⟩ := List.mem_flatMap.mp mem
    obtain ⟨file, -, rfl⟩ := List.mem_map.mp mem
    exact corrected_ascends batch file

/-- Two initializers in one line, with a letter of two bytes between them. -/
def accentedPair : String := "\nfinal public init(); /*é*/ final public init()"

def accentedWorkspace : Workspace where
  tree := .directory [("a.swift", .file (.text accentedPair))]
  directory := []
  configDirectory := none

def parsesPair : Parser := fun _ => .ok {
  root := ⟨.sourceFile, none, 0, 48, .internal, none, [], [
    ⟨.initializer, some "init", 1, 19, .public, none, [], []⟩,
    ⟨.initializer, some "init", 29, 19, .public, none, [], []⟩]⟩
  tokens := [⟨.keyword, 1, 5⟩, ⟨.keyword, 7, 6⟩, ⟨.keyword, 14, 4⟩, ⟨.punctuation, 18, 1⟩,
    ⟨.punctuation, 19, 1⟩, ⟨.punctuation, 20, 1⟩, ⟨.comment, 22, 6⟩, ⟨.keyword, 29, 5⟩,
    ⟨.keyword, 35, 6⟩, ⟨.keyword, 42, 4⟩, ⟨.punctuation, 46, 1⟩, ⟨.punctuation, 47, 1⟩] }

def pairFile : SourceFile := ⟨some "a.swift", accentedPair, parsesPair⟩

def pairBatch : Batch := ⟨⟨Rule.builtin, false⟩, [pairFile]⟩

def firstOfPair : Edit := ⟨1, 13, "public final", VisibilityOrder.info.reporter⟩

def secondOfPair : Edit := ⟨29, 41, "public final", VisibilityOrder.info.reporter⟩

theorem corrections_listed_in_text_order_accentedPair :
    toLex (Text.locate 1 accentedPair.toList) ≤ toLex (Text.locate 60 accentedPair.toList) ∧
    ∃ listing, correctFiles accentedWorkspace parsesPair none [⟨"a.swift"⟩] true =
        .ok (accentedWorkspace, listing) ∧
      listing = "a.swift:2:1 Corrected Function Visibility Order\n" ++
        "a.swift:2:28 Corrected Function Visibility Order\nWould apply 2 correction(s)\n" ∧
      ∃ run sources, listing = listCorrections true run sources ∧
        ∀ told ∈ run.files.zip sources,
          (told.1.corrections.map fun correction =>
            (correction.location.position.resolve told.2.text).key).Pairwise (· ≤ ·) := by
  have resolved : Batch.resolve accentedWorkspace none [⟨"a.swift"⟩] =
      .ok [⟨.default, Config.default, [⟨"a.swift"⟩]⟩] := rfl
  have found : Discovery.discover accentedWorkspace Config.default [⟨"a.swift"⟩] =
      .ok [⟨"a.swift"⟩] := eq_ok_of_toOption (by decide +kernel)
  have made : Batch.ofPaths accentedWorkspace parsesPair none [⟨"a.swift"⟩] =
      .ok [pairBatch] :=
    bind_eq_ok_iff.mpr ⟨_, resolved, Batch.ofGroups_cons_eq_ok_iff.mpr ⟨_, _, [],
      Batch.reached_eq_ok_iff.mpr ⟨_, found, rfl⟩, Batch.analyzerOf_default, rfl, rfl⟩⟩
  have corrects : correctFiles accentedWorkspace parsesPair none [⟨"a.swift"⟩] true = .ok (_, _) :=
    bind_eq_ok_iff.mpr ⟨_, mapError_eq_ok_iff.mpr made, bind_eq_ok_iff.mpr
      ⟨_, Batch.correctBatches_dry (by simp [pairBatch]), rfl⟩⟩
  obtain ⟨places, listings⟩ := corrections_listed_in_text_order
  obtain ⟨batches, run, -, -, listed, -, ascend⟩ := listings _ _ _ _ _ _ _ corrects
  refine ⟨places _ _ _ (by decide) (by decide +kernel) (by decide +kernel), _, corrects, ?_,
    run, _, listed, ascend⟩
  have apart : firstOfPair.Apart secondOfPair :=
    (Edit.conflicts_eq_false_iff (by decide) (by decide)).mp (by decide)
  have applied : Edit.applied accentedPair.toList [firstOfPair, secondOfPair] =
      [firstOfPair, secondOfPair] :=
    Edit.applied_of_apart (by decide +kernel) (by simpa using apart) (by simp [Edit.Before]; decide)
  have requested : pairBatch.analyzer.edits (Analyzer.indexOf pairBatch.files) pairFile =
      [firstOfPair, secondOfPair] := by decide +kernel
  have corrections : (pairFile.applyEdits [firstOfPair, secondOfPair]).2 =
      [firstOfPair.correction pairFile, secondOfPair.correction pairFile] :=
    (Edit.corrections_eq_map_applied _ _).trans (congrArg (List.map _) applied)
  have report : Batch.correctionReport [pairBatch] = ⟨[⟨some "a.swift", [], (pairFile.applyEdits
    (pairBatch.analyzer.edits (Analyzer.indexOf pairBatch.files) pairFile)).2, none⟩]⟩ := rfl
  rw [report, requested, corrections]
  decide +kernel

end Command

end SwiftStyle
