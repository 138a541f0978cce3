import SwiftStyle.Proofs.Analyzer.Building
import SwiftStyle.Proofs.Declaration.Index
import SwiftStyle.Proofs.Rule.MissingDocs.Thinning
import SwiftStyle.Rule.Builtin

/-!
What the other files of a run change in the report of a file. Of the rules only the one for
documentation looks at the index, and it asks only whether a type has a member; so nothing counts
but the set of members that the files declare, and more of them mean fewer violations.
-/

namespace SwiftStyle

/-- A rule that does what a built-in rule does under some configuration. -/
inductive Rule.IsBuiltIn (rule : Rule) : Prop
  | lineLength (r : LineLength) : rule.behaviour = r.behaviour → IsBuiltIn rule
  | visibilityOrder (r : VisibilityOrder) : rule.behaviour = r.behaviour → IsBuiltIn rule
  | missingDocs (r : MissingDocs) : rule.behaviour = r.behaviour → IsBuiltIn rule

/-- A built-in rule reports less under an index that knows more. -/
theorem Rule.IsBuiltIn.thinned {rule : Rule} (builtIn : rule.IsBuiltIn)
    {index index' : DeclarationIndex}
    (fewer : ∀ type, index.membersOf type ⊆ index'.membersOf type) (file : SourceFile) :
    MissingDocs.Thinned (rule.behaviour.violations file index)
      (rule.behaviour.violations file index') := by
  cases builtIn with
  | lineLength r same =>
    rw [same]
    exact .refl _
  | visibilityOrder r same =>
    rw [same]
    exact .refl _
  | missingDocs r same =>
    rw [same]
    exact r.violations_thinned fewer file

theorem Rule.IsBuiltIn.of_configure {config : Config} {rule configured : Rule}
    (hrule : rule ∈ Rule.builtin) (h : config.configure rule = .ok configured) :
    configured.IsBuiltIn := by
  simp only [Rule.builtin, List.mem_cons, List.not_mem_nil, or_false] at hrule
  rcases hrule with rfl | rfl | rfl
  · rcases Config.behaviour_of_configure h with same | ⟨s, accepted⟩
    · exact .lineLength _ same
    · obtain ⟨r, -, same⟩ := exists_of_map_eq_ok accepted
      exact .lineLength r same.symm
  · rcases Config.behaviour_of_configure h with same | ⟨s, accepted⟩
    · exact .visibilityOrder _ same
    · obtain ⟨r, -, same⟩ := exists_of_map_eq_ok accepted
      exact .visibilityOrder r same.symm
  · rcases Config.behaviour_of_configure h with same | ⟨s, accepted⟩
    · exact .missingDocs _ same
    · obtain ⟨r, -, same⟩ := exists_of_map_eq_ok accepted
      exact .missingDocs r same.symm

namespace Analyzer

/-- The rules of an analyzer that is built from the built-in rules are built in. -/
theorem isBuiltIn_of_build {config : Config} {fails : Bool} {analyzer : Analyzer}
    (built : build Rule.builtin config fails = .ok analyzer) :
    analyzer.failsOnParseError = fails ∧ ∀ rule ∈ analyzer.rules, rule.IsBuiltIn := by
  obtain ⟨-, configured, -, same⟩ := build_eq_ok_iff.mp built
  refine ⟨by rw [same], fun rule mem => ?_⟩
  obtain ⟨original, given, accepted⟩ := exists_of_mem_build built mem
  exact .of_configure given accepted

/-- Whether a type of some name in the files has a member of some name. -/
def Declares (files : List SourceFile) (type member : String) : Prop :=
  ∃ file ∈ files, ∃ root, file.root? = some root ∧
    ∃ d ∈ root.preorder, d.kind.isType = true ∧ d.name = some type ∧
      ∃ m ∈ d.children, m.name = some member

theorem mem_membersOf_indexOf {files : List SourceFile} {type member : String} :
    member ∈ (indexOf files).membersOf type ↔ Declares files type member := by
  simp only [indexOf, DeclarationIndex.membersOf_ofTrees, List.mem_flatMap, List.mem_filterMap,
    DeclarationIndex.mem_membersFrom_iff]
  constructor
  · rintro ⟨root, ⟨file, hfile, parsed⟩, declared⟩
    exact ⟨file, hfile, root, parsed, declared⟩
  · rintro ⟨file, hfile, root, parsed, declared⟩
    exact ⟨root, ⟨file, hfile, parsed⟩, declared⟩

theorem membersOf_indexOf_subset {files others : List SourceFile}
    (declared : ∀ type member, Declares files type member → Declares others type member)
    (type : String) : (indexOf files).membersOf type ⊆ (indexOf others).membersOf type := by
  intro member hmember
  exact mem_membersOf_indexOf.mpr (declared type member (mem_membersOf_indexOf.mp hmember))

theorem index_of_lenient {analyzer : Analyzer} (lenient : analyzer.failsOnParseError = false)
    (files : List SourceFile) : analyzer.index files = .ok (indexOf files) := by
  unfold index
  rw [lenient]
  rfl

theorem lint_of_index {analyzer : Analyzer} {files : List SourceFile} {index : DeclarationIndex}
    (indexed : analyzer.index files = .ok index) :
    analyzer.lint files = .ok ⟨files.map (analyzer.lintWith index)⟩ := by
  rw [lint, indexed]
  rfl

theorem lint_of_lenient {analyzer : Analyzer} (lenient : analyzer.failsOnParseError = false)
    (files : List SourceFile) :
    analyzer.lint files = .ok ⟨files.map (analyzer.lintWith (indexOf files))⟩ :=
  lint_of_index (index_of_lenient lenient files)

/-- Under an index that knows more, a report has fewer violations and is the same otherwise. -/
theorem lintWith_thinned {analyzer : Analyzer}
    (builtIn : ∀ rule ∈ analyzer.rules, rule.IsBuiltIn) {index index' : DeclarationIndex}
    (fewer : ∀ type, index.membersOf type ⊆ index'.membersOf type) (file : SourceFile) :
    ∃ vs, MissingDocs.Thinned (analyzer.lintWith index file).violations vs ∧
      analyzer.lintWith index' file
        = { analyzer.lintWith index file with violations := vs } := by
  unfold lintWith
  cases file.outline with
  | error failure => exact ⟨[], .nil, rfl⟩
  | ok outline =>
    refine ⟨analyzer.violations index' file, ?_, rfl⟩
    exact MissingDocs.Thinned.flatMap fun rule hrule => (builtIn rule hrule).thinned fewer file

theorem lintWith_congr {analyzer : Analyzer}
    (builtIn : ∀ rule ∈ analyzer.rules, rule.IsBuiltIn) {index index' : DeclarationIndex}
    (fewer : ∀ type, index.membersOf type ⊆ index'.membersOf type)
    (more : ∀ type, index'.membersOf type ⊆ index.membersOf type) :
    analyzer.lintWith index' = analyzer.lintWith index := by
  funext file
  obtain ⟨vs, thinned, same⟩ := lintWith_thinned builtIn fewer file
  obtain ⟨ws, thinned', same'⟩ := lintWith_thinned builtIn more file
  have vs_eq : vs = (analyzer.lintWith index' file).violations := by rw [same]
  have ws_eq : ws = (analyzer.lintWith index file).violations := by rw [same']
  rw [vs_eq] at thinned same
  rw [ws_eq] at thinned'
  rw [same, ← thinned.antisymm thinned']

/-- Files that together declare more members thin out the report of each file; files that declare
the same members leave it as it is, so that files can change places or come again. -/
theorem lint_thinned_by_declared (analyzer : Analyzer)
    (builtIn : ∀ rule ∈ analyzer.rules, rule.IsBuiltIn)
    (lenient : analyzer.failsOnParseError = false) (files others : List SourceFile)
    (declared : ∀ type member, Declares files type member → Declares others type member) :
    ∃ report report' : SourceFile → FileReport,
      analyzer.lint files = .ok ⟨files.map report⟩ ∧
      analyzer.lint others = .ok ⟨others.map report'⟩ ∧
      (∀ file, ∃ vs, MissingDocs.Thinned (report file).violations vs ∧
        report' file = { report file with violations := vs }) ∧
      ((∀ type member, Declares others type member → Declares files type member) →
        report' = report) ∧
      ∀ rearranged : List SourceFile, (∀ file, file ∈ rearranged ↔ file ∈ files) →
        analyzer.lint rearranged = .ok ⟨rearranged.map report⟩ := by
  refine ⟨analyzer.lintWith (indexOf files), analyzer.lintWith (indexOf others),
    lint_of_lenient lenient files, lint_of_lenient lenient others,
    lintWith_thinned builtIn (membersOf_indexOf_subset declared), ?_, ?_⟩
  · intro back
    exact lintWith_congr builtIn (membersOf_indexOf_subset declared)
      (membersOf_indexOf_subset back)
  · intro rearranged same
    have declares_iff (type member : String) :
        Declares rearranged type member ↔ Declares files type member := by
      simp only [Declares, same]
    rw [lint_of_lenient lenient rearranged, lintWith_congr builtIn
      (membersOf_indexOf_subset fun type member => (declares_iff type member).mpr)
      (membersOf_indexOf_subset fun type member => (declares_iff type member).mp)]

/-- A file with a tree that does not hang on its text. -/
def fileOf (declarations : List Declaration) : SourceFile :=
  ⟨none, "", fun _ => .ok ⟨⟨.sourceFile, none, 0, 0, .unspecified, none, [], declarations⟩, []⟩⟩

/-- A type that has a member of the same name as a type that it inherits from. -/
def conformer : SourceFile :=
  fileOf [⟨.structType, some "C", 0, 0, .public, some "/// docs", ["A"],
    [⟨.instanceVariable, some "b", 0, 0, .public, none, [], []⟩]⟩]

def requirement : SourceFile :=
  fileOf [⟨.protocolType, some "A", 0, 0, .public, some "/// docs", [],
    [⟨.instanceVariable, some "b", 0, 0, .public, some "/// docs", [], []⟩]⟩]

def counts (run : Except AnalyzerError RunReport) : Option (List Nat) :=
  run.toOption.map fun run => run.files.map fun report => report.violations.length

theorem lint_thinned_by_declared_conformer :
    ∃ report report' : SourceFile → FileReport,
      lint ⟨Rule.builtin, false⟩ [conformer] = .ok ⟨[report conformer]⟩ ∧
      lint ⟨Rule.builtin, false⟩ [conformer, requirement]
        = .ok ⟨[report' conformer, report' requirement]⟩ ∧
      MissingDocs.Thinned (report conformer).violations (report' conformer).violations ∧
      (report conformer).violations.length = 1 ∧ (report' conformer).violations = [] := by
  have built : build Rule.builtin Config.default false = .ok ⟨Rule.builtin, false⟩ := rfl
  obtain ⟨lenient, builtIn⟩ := isBuiltIn_of_build built
  obtain ⟨report, report', alone, together, thinned, -, -⟩ :=
    lint_thinned_by_declared ⟨Rule.builtin, false⟩ builtIn lenient [conformer]
      [conformer, requirement] (by
        rintro type member ⟨file, hfile, declared⟩
        exact ⟨file, List.mem_of_mem_head? (by simp_all), declared⟩)
  have one : counts (lint ⟨Rule.builtin, false⟩ [conformer]) = some [1] := by decide +kernel
  have none : counts (lint ⟨Rule.builtin, false⟩ [conformer, requirement]) = some [0, 0] := by
    decide +kernel
  rw [alone] at one
  rw [together] at none
  obtain ⟨vs, fewer, same⟩ := thinned conformer
  have vs_eq : vs = (report' conformer).violations := by rw [same]
  simp only [counts, Except.toOption, List.map_cons, List.map_nil, Option.map_some,
    Option.some.injEq, List.cons.injEq, List.length_eq_zero_iff] at one none
  exact ⟨report, report', alone, together, vs_eq ▸ fewer, one.1, none.1⟩

end Analyzer

end SwiftStyle
