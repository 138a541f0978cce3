import SwiftStyle.Proofs.Analyzer.Failures

/-!
What the configuration of one rule changes for the others: nothing. Each rule is made ready under
its own section, and the rules report one after the other, so what a run says about some of its
rules is what a run of just those says.
-/

namespace SwiftStyle

/-- A report without the violations of those rules that are not kept. -/
def FileReport.restrict (keeps : String → Bool) (report : FileReport) : FileReport :=
  { report with violations := report.violations.filter fun v => keeps v.rule.id }

def RunReport.restrict (keeps : String → Bool) (run : RunReport) : RunReport :=
  ⟨run.files.map (FileReport.restrict keeps)⟩

def RunReport.skips (run : RunReport) : List FileReport := run.files.filter FileReport.isSkipped

/-- Whether everything is reported under one identifier. -/
def Behaviour.ReportsAs (behaviour : Behaviour) (id : String) : Prop :=
  ∀ file index, ∀ v ∈ behaviour.violations file index, v.rule.id = id

/-- A rule that reports under its own identifier, whatever its section says. -/
structure Rule.ReportsAsItself (rule : Rule) : Prop where
  unconfigured : rule.behaviour.ReportsAs rule.id
  configured : ∀ s behaviour, rule.configure s = .ok behaviour → behaviour.ReportsAs rule.id

/-! The built-in rules report under their own identifiers. -/

theorem LineLength.reportsAs (rule : LineLength) :
    rule.behaviour.ReportsAs LineLength.info.id := by
  intro file index v mem
  change v ∈ rule.violations file at mem
  unfold LineLength.violations at mem
  split at mem
  · exact absurd mem List.not_mem_nil
  · obtain ⟨line, -, found⟩ := List.mem_filterMap.mp mem
    obtain ⟨passed, -, rfl⟩ := Option.map_eq_some_iff.mp found
    rfl

theorem VisibilityOrder.reportsAs (rule : VisibilityOrder) :
    rule.behaviour.ReportsAs VisibilityOrder.info.id := by
  intro file index v mem
  obtain ⟨late, -, rfl⟩ := List.mem_map.mp mem
  rfl

theorem MissingDocs.reportsAs (rule : MissingDocs) :
    rule.behaviour.ReportsAs MissingDocs.info.id := by
  intro file index v mem
  change v ∈ rule.violations file index at mem
  cases parsed : file.root? with
  | none =>
    rw [MissingDocs.violations_of_unparsed parsed] at mem
    exact absurd mem List.not_mem_nil
  | some root =>
    rw [MissingDocs.violations_of_root? parsed] at mem
    obtain ⟨path, -, found⟩ := List.mem_filterMap.mp mem
    obtain ⟨d, -, -, tells⟩ := MissingDocs.at?_eq_some_iff.mp found
    rw [tells.reporter]
    rfl

theorem Rule.reportsAsItself_of_mem_builtin :
    ∀ rule ∈ Rule.builtin, rule.ReportsAsItself := by
  intro rule mem
  simp only [Rule.builtin, List.mem_cons, List.not_mem_nil, or_false] at mem
  rcases mem with rfl | rfl | rfl
  · refine ⟨LineLength.reportsAs _, fun s behaviour accepted => ?_⟩
    obtain ⟨r, -, rfl⟩ := exists_of_map_eq_ok accepted
    exact r.reportsAs
  · refine ⟨VisibilityOrder.reportsAs _, fun s behaviour accepted => ?_⟩
    obtain ⟨r, -, rfl⟩ := exists_of_map_eq_ok accepted
    exact r.reportsAs
  · refine ⟨MissingDocs.reportsAs _, fun s behaviour accepted => ?_⟩
    obtain ⟨r, -, rfl⟩ := exists_of_map_eq_ok accepted
    exact r.reportsAs

theorem Rule.ReportsAsItself.of_configure {config : Config} {rule ready : Rule}
    (own : rule.ReportsAsItself) (h : config.configure rule = .ok ready) :
    ready.behaviour.ReportsAs ready.id := by
  rw [Config.id_of_configure h]
  rcases Config.behaviour_of_configure h with same | ⟨s, accepted⟩
  · rw [same]
    exact own.unconfigured
  · exact own.configured s _ accepted

namespace Analyzer

variable {rules : List Rule} {config config' : Config} {fails : Bool}
  {analyzer analyzer' : Analyzer} {id : String}

/-- An analyzer with some of its rules only. -/
def only (keeps : String → Bool) (analyzer : Analyzer) : Analyzer :=
  { analyzer with rules := analyzer.rules.filter fun rule => keeps rule.id }

theorem violations_filter (own : ∀ rule ∈ analyzer.rules, rule.behaviour.ReportsAs rule.id)
    (keeps : String → Bool) (index : DeclarationIndex) (file : SourceFile) :
    (analyzer.violations index file).filter (fun v => keeps v.rule.id) =
      (analyzer.only keeps).violations index file := by
  obtain ⟨rules, fails⟩ := analyzer
  simp only [violations, only]
  induction rules with
  | nil => rfl
  | cons rule rules ih =>
    obtain ⟨itself, others⟩ := List.forall_mem_cons.mp own
    rw [List.flatMap_cons, List.filter_append, ih others]
    by_cases kept : keeps rule.id = true
    · have all : ∀ v ∈ rule.behaviour.violations file index, keeps v.rule.id = true := by
        intro v mem
        rwa [itself file index v mem]
      rw [List.filter_eq_self.mpr all, List.filter_cons, if_pos kept, List.flatMap_cons]
    · have none : ∀ v ∈ rule.behaviour.violations file index, ¬keeps v.rule.id = true := by
        intro v mem
        rwa [itself file index v mem]
      rw [List.filter_eq_nil_iff.mpr none, List.nil_append, List.filter_cons, if_neg kept]

theorem lintWith_restrict (own : ∀ rule ∈ analyzer.rules, rule.behaviour.ReportsAs rule.id)
    (keeps : String → Bool) (index : DeclarationIndex) (file : SourceFile) :
    (analyzer.lintWith index file).restrict keeps = (analyzer.only keeps).lintWith index file := by
  unfold lintWith
  cases file.outline with
  | error failure => rfl
  | ok outline =>
    rw [← violations_filter own]
    rfl

/-- What a run says about some of its rules is what a run of those rules says. -/
theorem lint_restrict (own : ∀ rule ∈ analyzer.rules, rule.behaviour.ReportsAs rule.id)
    (keeps : String → Bool) (files : List SourceFile) :
    (analyzer.lint files).map (RunReport.restrict keeps) = (analyzer.only keeps).lint files := by
  have same : (analyzer.only keeps).index files = analyzer.index files := rfl
  unfold lint
  rw [same]
  cases analyzer.index files with
  | error error => rfl
  | ok index =>
    have reports : (RunReport.restrict keeps ⟨files.map (analyzer.lintWith index)⟩) =
        ⟨files.map ((analyzer.only keeps).lintWith index)⟩ := by
      rw [RunReport.restrict, List.map_map]
      congr 2
      funext file
      exact lintWith_restrict own keeps index file
    exact congrArg Except.ok reports

theorem reportsAs_of_build (own : ∀ rule ∈ rules, rule.ReportsAsItself)
    (built : build rules config fails = .ok analyzer) :
    ∀ rule ∈ analyzer.rules, rule.behaviour.ReportsAs rule.id := by
  intro rule mem
  obtain ⟨original, given, accepted⟩ := exists_of_mem_build built mem
  exact (own original given).of_configure accepted

/-- Of one rule, two configurations that agree on it make the same. -/
theorem only_eq_of_agree (built : build rules config fails = .ok analyzer)
    (built' : build rules config' fails = .ok analyzer')
    (enabled : config'.isEnabled id = config.isEnabled id)
    (sameSection : config'.rules.lookup id = config.rules.lookup id) :
    analyzer'.only (· == id) = analyzer.only (· == id) := by
  obtain ⟨-, configured, ready, rfl⟩ := build_eq_ok_iff.mp built
  obtain ⟨-, configured', ready', rfl⟩ := build_eq_ok_iff.mp built'
  -- the rule is made ready by its own section, whatever stands beside it
  have one := Config.map_configure_filter (· == id) ready
  have one' := Config.map_configure_filter (· == id) ready'
  have agree : (rules.filter fun rule => rule.id == id).map config'.configure =
      (rules.filter fun rule => rule.id == id).map config.configure := by
    apply List.map_congr_left
    intro rule mem
    obtain rfl := eq_of_beq (List.mem_filter.mp mem).2
    exact Config.configure_congr sameSection
  have injective : Function.Injective (Except.ok : Rule → Except ConfigError Rule) :=
    fun _ _ => Except.ok.inj
  have same := injective.list_map (one'.symm.trans (agree.trans one))
  have commute (c : Config) (l : List Rule) :
      (l.filter fun rule => c.isEnabled rule.id).filter (fun rule => rule.id == id) =
        (l.filter fun rule => rule.id == id).filter fun rule => c.isEnabled rule.id := by
    rw [List.filter_filter, List.filter_filter]
    apply List.filter_congr
    intro rule _
    exact Bool.and_comm _ _
  simp only [only, commute, same, Analyzer.mk.injEq, and_true]
  apply List.filter_congr
  intro rule mem
  rw [eq_of_beq (List.mem_filter.mp mem).2, enabled]

/-- A disabled rule leaves the others as they are made without it. -/
theorem build_of_disabled (built : build rules config fails = .ok analyzer)
    (known : id ∈ rules.map Rule.id) {disabled : List String}
    (added : ∀ other, other ∈ disabled ↔ other = id ∨ other ∈ config.disabledRules) :
    build rules { config with disabledRules := disabled } fails =
      .ok (analyzer.only (· != id)) := by
  obtain ⟨all, configured, ready, rfl⟩ := build_eq_ok_iff.mp built
  refine build_eq_ok_iff.mpr ⟨fun other mentioned => ?_, configured, ready, ?_⟩
  · simp only [Config.mentioned, List.mem_append, added] at mentioned all
    rcases mentioned with (inSections | rfl | wasDisabled) | isOnly
    · exact all other (.inl (.inl inSections))
    · exact known
    · exact all other (.inl (.inr wasDisabled))
    · exact all other (.inr isOnly)
  · have enabled (other : String) :
        Config.isEnabled { config with disabledRules := disabled } other =
          (other != id && config.isEnabled other) := by
      have split :
          disabled.contains other = (other == id || config.disabledRules.contains other) := by
        rw [Bool.eq_iff_iff]
        simp [added]
      simp only [Config.isEnabled, split, Bool.not_or, Bool.and_assoc]
      rfl
    simp only [only, List.filter_filter, enabled]

/-- Which files are skipped, and what is said of them, is not up to the rules. -/
theorem lint_skips (same : analyzer'.failsOnParseError = analyzer.failsOnParseError)
    (files : List SourceFile) :
    (analyzer'.lint files).map RunReport.skips = (analyzer.lint files).map RunReport.skips := by
  have skips (index : DeclarationIndex) : (files.map (analyzer'.lintWith index)).filter
      FileReport.isSkipped = (files.map (analyzer.lintWith index)).filter FileReport.isSkipped := by
    induction files with
    | nil => rfl
    | cons file files ih =>
      rw [List.map_cons, List.map_cons, List.filter_cons, List.filter_cons, ih]
      unfold lintWith
      cases file.outline <;> rfl
  unfold lint index
  rw [same]
  split
  · rfl
  · exact congrArg Except.ok (skips _)

/-- Whatever configurations say of other rules, if they agree on one then runs under them agree on
what that rule reports, and on the files that are skipped; and disabling a rule takes its own
violations out of the reports and nothing else. -/
theorem lint_separates_rules (rules : List Rule) (own : ∀ rule ∈ rules, rule.ReportsAsItself)
    (config : Config) (fails : Bool) (analyzer : Analyzer)
    (built : build rules config fails = .ok analyzer) (rule : Rule) (given : rule ∈ rules) :
    (∀ config' analyzer', build rules config' fails = .ok analyzer' →
      config'.isEnabled rule.id = config.isEnabled rule.id →
      config'.rules.lookup rule.id = config.rules.lookup rule.id → ∀ files,
        (analyzer'.lint files).map (RunReport.restrict (· == rule.id)) =
          (analyzer.lint files).map (RunReport.restrict (· == rule.id)) ∧
        (analyzer'.lint files).map RunReport.skips = (analyzer.lint files).map RunReport.skips) ∧
    ∀ disabled, (∀ id, id ∈ disabled ↔ id = rule.id ∨ id ∈ config.disabledRules) →
      ∃ analyzer', build rules { config with disabledRules := disabled } fails = .ok analyzer' ∧
        ∀ files,
          analyzer'.lint files = (analyzer.lint files).map (RunReport.restrict (· != rule.id)) := by
  have reports := reportsAs_of_build own built
  constructor
  · intro config' analyzer' built' enabled sameSection files
    constructor
    · rw [lint_restrict reports, lint_restrict (reportsAs_of_build own built'),
        only_eq_of_agree built built' enabled sameSection]
    · apply lint_skips
      obtain ⟨-, configured, -, rfl⟩ := build_eq_ok_iff.mp built
      obtain ⟨-, configured', -, rfl⟩ := build_eq_ok_iff.mp built'
      rfl
  · intro disabled added
    refine ⟨_, build_of_disabled built (List.mem_map_of_mem given) added, fun files => ?_⟩
    rw [lint_restrict reports]

/-- A configuration under which every line that is not empty is too long. -/
def noLines : Config :=
  { Config.default with rules := [("line_length", ⟨some .error, [("warning", .integer 0)]⟩)] }

/-- The type with a member of the same name as one that it inherits from, and a text. -/
def spelledConformer : SourceFile := { conformer with text := "struct C: A" }

theorem lint_separates_rules_noLines :
    MissingDocs.default.toRule ∈ Rule.builtin ∧
    noLines.isEnabled "missing_docs" = Config.default.isEnabled "missing_docs" ∧
    noLines.rules.lookup "missing_docs" = Config.default.rules.lookup "missing_docs" ∧
    ∃ analyzer analyzer', build Rule.builtin Config.default false = .ok analyzer ∧
      build Rule.builtin noLines false = .ok analyzer' ∧
      counts (analyzer.lint [spelledConformer, unreadable]) = some [1, 0] ∧
      counts (analyzer'.lint [spelledConformer, unreadable]) = some [2, 0] ∧
      (analyzer'.lint [spelledConformer, unreadable]).map
          (RunReport.restrict (· == "missing_docs")) =
        (analyzer.lint [spelledConformer, unreadable]).map
          (RunReport.restrict (· == "missing_docs")) ∧
      ∃ undocumented,
        build Rule.builtin { Config.default with disabledRules := ["missing_docs"] } false =
          .ok undocumented ∧
        undocumented.lint [spelledConformer, unreadable] =
          (analyzer.lint [spelledConformer, unreadable]).map
            (RunReport.restrict (· != "missing_docs")) := by
  have given : MissingDocs.default.toRule ∈ Rule.builtin := by simp [Rule.builtin]
  have built : build Rule.builtin Config.default false = .ok ⟨Rule.builtin, false⟩ := rfl
  have enabled : noLines.isEnabled "missing_docs" = Config.default.isEnabled "missing_docs" := rfl
  have sameSection : noLines.rules.lookup "missing_docs" =
      Config.default.rules.lookup "missing_docs" := rfl
  obtain ⟨analyzer', built'⟩ : ∃ analyzer', build Rule.builtin noLines false = .ok analyzer' :=
    ⟨_, rfl⟩
  obtain ⟨agree, disable⟩ := lint_separates_rules Rule.builtin Rule.reportsAsItself_of_mem_builtin
    Config.default false _ built _ given
  obtain ⟨undocumented, disabled, without⟩ := disable ["missing_docs"] (by simp [Config.default,
    MissingDocs.toRule, Rule.id, MissingDocs.info])
  refine ⟨given, enabled, sameSection, _, analyzer', built, built', ?_, ?_,
    (agree noLines analyzer' built' enabled sameSection _).1, undocumented, disabled, without _⟩
  · decide +kernel
  · cases built'
    decide +kernel

end Analyzer

end SwiftStyle
