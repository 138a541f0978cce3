import SwiftStyle.Proofs.Analyzer.Separation
import SwiftStyle.Proofs.Edit.Weaving
import SwiftStyle.Proofs.Rule.VisibilityOrder.Correction

/-!
Files in a batch and files on their own. The batch takes its index from all of its files and a file
on its own from itself, but no built-in rule looks at the index for its edits, and only one looks at
it for its violations.
-/

namespace SwiftStyle

theorem Edit.mem_of_mem_accepted {text : List Char} {edits : List Edit} {e : Edit}
    (h : e ∈ accepted text edits) : e ∈ edits := by
  obtain ⟨chosen, sub, taken, -⟩ := exists_settled text edits
  rw [taken] at h
  obtain ⟨x, chosen, rfl⟩ := List.mem_map.mp h
  exact List.fst_mem_of_mem_zipIdx (mem_ranking.mp (sub.subset chosen))

theorem SourceFile.applyEdits_of_rejected {file : SourceFile} {edits : List Edit}
    (rejected : ∀ e ∈ edits, e ∉ Edit.accepted file.text.toList edits) :
    file.applyEdits edits = (file, []) := by
  have nothing : Edit.accepted file.text.toList edits = [] := by
    apply List.eq_nil_iff_forall_not_mem.mpr
    intro e accepted
    exact rejected e (Edit.mem_of_mem_accepted accepted) accepted
  simp [applyEdits, nothing, Edit.backToFront]

/-- The edits that a built-in rule requests do not hang on the index. -/
theorem Rule.IsBuiltIn.edits_eq {rule : Rule} (builtIn : rule.IsBuiltIn) (file : SourceFile)
    (index index' : DeclarationIndex) : rule.edits file index = rule.edits file index' := by
  unfold edits
  cases builtIn with
  | lineLength r same => rw [same]; rfl
  | visibilityOrder r same => rw [same]; rfl
  | missingDocs r same => rw [same]; rfl

/-- Of the violations that a built-in rule reports, those of the rule for documentation apart, none
hangs on the index. -/
theorem Rule.IsBuiltIn.violations_filter_eq {rule : Rule} (builtIn : rule.IsBuiltIn)
    {keeps : String → Bool} (drops : keeps MissingDocs.info.id = false) (file : SourceFile)
    (index index' : DeclarationIndex) :
    (rule.behaviour.violations file index).filter (fun v => keeps v.rule.id) =
      (rule.behaviour.violations file index').filter fun v => keeps v.rule.id := by
  cases builtIn with
  | lineLength r same => rw [same]; rfl
  | visibilityOrder r same => rw [same]; rfl
  | missingDocs r same =>
    have none (index : DeclarationIndex) :
        (rule.behaviour.violations file index).filter (fun v => keeps v.rule.id) = [] := by
      apply List.filter_eq_nil_iff.mpr
      intro v reported
      rw [same] at reported
      rw [r.reportsAs file index v reported, drops]
      exact Bool.false_ne_true
    rw [none, none]

namespace Analyzer

variable {analyzer : Analyzer} {file : SourceFile} {files : List SourceFile}

/-- Whether no file ends a run over all of them. -/
def Completes (analyzer : Analyzer) (files : List SourceFile) : Prop :=
  analyzer.failsOnParseError = true → ∀ file ∈ files, file.Parses

theorem index_of_completes (completes : analyzer.Completes files) :
    analyzer.index files = .ok (indexOf files) := by
  cases strict : analyzer.failsOnParseError with
  | false => exact index_of_lenient strict files
  | true =>
    unfold index
    rw [firstFailure?_eq_none_iff.mpr (completes strict), ite_self]

theorem completes_iff : analyzer.Completes files ↔ ∃ run, analyzer.lint files = .ok run := by
  constructor
  · intro completes
    exact ⟨_, lint_of_index (index_of_completes completes)⟩
  · rintro ⟨run, linted⟩ strict
    by_contra bad
    push Not at bad
    obtain ⟨error, named⟩ := exists_namesFirstFailure_iff.mpr bad
    rw [lint_eq_error_iff.mpr ((index_eq_error_iff strict).mpr named)] at linted
    cases linted

theorem indexOf_singleton (file : SourceFile) : indexOf [file] = file.ownIndex := by
  unfold indexOf SourceFile.ownIndex
  rw [List.filterMap_cons, List.filterMap_nil]
  cases file.root? <;> rfl

theorem edits_eq (builtIn : ∀ rule ∈ analyzer.rules, rule.IsBuiltIn)
    (index index' : DeclarationIndex) (file : SourceFile) :
    analyzer.edits index file = analyzer.edits index' file :=
  List.flatMap_congr fun rule mem => (builtIn rule mem).edits_eq file index index'

theorem correctWith_eq (builtIn : ∀ rule ∈ analyzer.rules, rule.IsBuiltIn)
    (index : DeclarationIndex) : analyzer.correctWith index = analyzer.correctFile := by
  funext file
  unfold correctFile correctWith
  rw [edits_eq builtIn index file.ownIndex]

theorem lintWith_restrict_eq (builtIn : ∀ rule ∈ analyzer.rules, rule.IsBuiltIn)
    {keeps : String → Bool} (drops : keeps MissingDocs.info.id = false)
    (index : DeclarationIndex) (file : SourceFile) :
    (analyzer.lintWith index file).restrict keeps = (analyzer.lintFile file).restrict keeps := by
  unfold lintFile lintWith
  cases file.outline with
  | error failure => rfl
  | ok outline =>
    have same : (analyzer.violations index file).filter (fun v => keeps v.rule.id) =
        (analyzer.violations file.ownIndex file).filter fun v => keeps v.rule.id := by
      simp only [violations, List.filter_flatMap]
      apply List.flatMap_congr
      intro rule mem
      exact (builtIn rule mem).violations_filter_eq drops file _ _
    simp only [FileReport.restrict, same]

theorem correctFile_of_rejected
    (rejected : ∀ e ∈ analyzer.edits file.ownIndex file,
      e ∉ Edit.accepted file.text.toList (analyzer.edits file.ownIndex file)) :
    (analyzer.correctFile file).1 = file := by
  unfold correctFile correctWith
  cases file.outline with
  | error failure => rfl
  | ok outline =>
    change (file.applyEdits (analyzer.edits file.ownIndex file)).1 = file
    rw [SourceFile.applyEdits_of_rejected rejected]

/-- In a batch that runs to its end each file is corrected, and reported on by all rules but the one
for documentation, as on its own; in a batch of its own it is reported on by that one too. A file
that no edit is accepted for stays as it is. -/
theorem batch_agrees_with_alone (analyzer : Analyzer)
    (builtIn : ∀ rule ∈ analyzer.rules, rule.IsBuiltIn) :
    (∀ files, analyzer.Completes files →
      analyzer.correct files =
          .ok (files.map fun file => (analyzer.correctFile file).1,
            ⟨files.map fun file => (analyzer.correctFile file).2⟩) ∧
      ∃ report : SourceFile → FileReport, analyzer.lint files = .ok ⟨files.map report⟩ ∧
        ∀ id ∈ [LineLength.info.id, VisibilityOrder.info.id], ∀ file,
          (report file).restrict (· == id) = (analyzer.lintFile file).restrict (· == id)) ∧
    (∀ file, analyzer.Completes [file] → analyzer.lint [file] = .ok ⟨[analyzer.lintFile file]⟩) ∧
    (∀ files, analyzer.Completes files ↔ ∃ run, analyzer.lint files = .ok run) ∧
    ∀ file, (∀ e ∈ analyzer.edits file.ownIndex file,
        e ∉ Edit.accepted file.text.toList (analyzer.edits file.ownIndex file)) →
      (analyzer.correctFile file).1 = file := by
  refine ⟨fun files completes => ⟨?_, ?_⟩, fun file completes => ?_, fun files => completes_iff,
    fun file rejected => correctFile_of_rejected rejected⟩
  · rw [correct_of_index (index_of_completes completes), correctWith_eq builtIn, List.map_map,
      List.map_map]
    rfl
  · refine ⟨_, lint_of_index (index_of_completes completes), fun id other file => ?_⟩
    apply lintWith_restrict_eq builtIn
    rcases List.mem_pair.mp other with rfl | rfl <;> rfl
  · rw [lint_of_index (index_of_completes completes), indexOf_singleton]
    rfl

theorem batch_agrees_with_alone_mixedFile :
    (∃ corrected untouched : SourceFile × FileReport,
      correct ⟨Rule.builtin, false⟩ [VisibilityOrder.mixedFile, unreadable] =
        .ok ([corrected.1, untouched.1], ⟨[corrected.2, untouched.2]⟩) ∧
      corrected = correctFile ⟨Rule.builtin, false⟩ VisibilityOrder.mixedFile ∧
      corrected.1.text = "public final func a()\nfinal @x public init()" ∧
      corrected.2.corrections = [⟨VisibilityOrder.info.reporter, ⟨none, .offset 0⟩⟩] ∧
      untouched.1 = unreadable) ∧
    (∃ report, lint ⟨Rule.builtin, true⟩ [conformer] = .ok ⟨[report]⟩ ∧
      report.violations.length = 1) ∧
    (correctFile ⟨Rule.builtin, false⟩ conformer).1 = conformer := by
  have builtIn (fails : Bool) :
      ∀ rule ∈ (⟨Rule.builtin, fails⟩ : Analyzer).rules, rule.IsBuiltIn :=
    (isBuiltIn_of_build (rfl : build Rule.builtin Config.default fails = _)).2
  obtain ⟨batches, -, -, rejected⟩ := batch_agrees_with_alone _ (builtIn false)
  obtain ⟨-, alone, -, -⟩ := batch_agrees_with_alone _ (builtIn true)
  refine ⟨⟨_, _, (batches [VisibilityOrder.mixedFile, unreadable] nofun).1, rfl, ?_, ?_, rfl⟩,
    ⟨_, alone conformer fun _ file mem => ?_, ?_⟩, rejected conformer ?_⟩
  · decide +kernel
  · decide +kernel
  · rw [List.mem_singleton.mp mem]
    exact ⟨_, rfl⟩
  · decide +kernel
  · have none : edits ⟨Rule.builtin, false⟩ conformer.ownIndex conformer = [] := by decide +kernel
    rw [none]
    exact fun e mem => absurd mem List.not_mem_nil

end Analyzer

end SwiftStyle
