import SwiftStyle.Analyzer
import SwiftStyle.Proofs.Results

/-!
What an analyzer is built of: each of its rules is one of the given rules, made ready under its own
section. Rules are made ready one by one, so that some of them are made ready as among all of them.
-/

namespace SwiftStyle

namespace Config

variable {config config' : Config} {rule : Rule} {rules configured : List Rule}

/-- A rule behaves as before, or as one of its sections makes it behave. -/
theorem behaviour_of_configure {ready : Rule} (h : config.configure rule = .ok ready) :
    ready.behaviour = rule.behaviour ∨ ∃ s, rule.configure s = .ok ready.behaviour := by
  unfold configure at h
  split at h
  · cases h
    exact .inl rfl
  · next s _ =>
    obtain ⟨behaviour, accepted, rfl⟩ := exists_of_map_eq_ok h
    exact .inr ⟨s, accepted⟩

theorem id_of_configure {ready : Rule} (h : config.configure rule = .ok ready) :
    ready.id = rule.id := by
  unfold configure at h
  split at h
  · cases h
    rfl
  · obtain ⟨behaviour, -, rfl⟩ := exists_of_map_eq_ok h
    rfl

theorem configure_congr (sameSection : config'.rules.lookup rule.id = config.rules.lookup rule.id) :
    config'.configure rule = config.configure rule := by
  unfold configure
  rw [sameSection]

/-- Some of the rules are made ready as they are among all of them. -/
theorem map_configure_filter (keeps : String → Bool)
    (ready : rules.map config.configure = configured.map .ok) :
    (rules.filter fun rule => keeps rule.id).map config.configure =
      (configured.filter fun rule => keeps rule.id).map .ok := by
  induction rules generalizing configured with
  | nil =>
    cases configured with
    | nil => rfl
    | cons first others => cases ready
  | cons rule rules ih =>
    cases configured with
    | nil => cases ready
    | cons first others =>
      obtain ⟨now, later⟩ := List.cons.inj ready
      have same := id_of_configure now
      by_cases kept : keeps rule.id = true
      · simp only [List.filter_cons, same, kept, if_true, List.map_cons, now, ih later]
      · simp only [List.filter_cons, same, kept, Bool.false_eq_true, if_false, ih later]

theorem apply_eq_ok_iff : config.apply rules = .ok configured ↔
    (∀ id ∈ config.mentioned, id ∈ rules.map Rule.id) ∧
      rules.map config.configure = configured.map .ok := by
  unfold apply
  split
  · next id unknown =>
    have known := List.find?_some unknown
    have mentioned := List.mem_of_find?_eq_some unknown
    simp only [Bool.not_eq_true', List.contains_eq_mem, decide_eq_false_iff_not] at known
    simp only [reduceCtorEq, false_iff, not_and]
    intro all
    exact absurd (all id mentioned) known
  · next known =>
    rw [List.find?_eq_none] at known
    simp only [Bool.not_eq_true', Bool.not_eq_false, List.contains_eq_mem, decide_eq_true_eq]
      at known
    rw [mapM_eq_ok_iff]
    exact ⟨fun ready => ⟨known, ready⟩, And.right⟩

end Config

namespace Analyzer

variable {rules : List Rule} {config : Config} {fails : Bool} {analyzer : Analyzer}

theorem build_eq_ok_iff : build rules config fails = .ok analyzer ↔
    (∀ id ∈ config.mentioned, id ∈ rules.map Rule.id) ∧ ∃ configured : List Rule,
      rules.map config.configure = configured.map .ok ∧
        analyzer = ⟨configured.filter fun rule => config.isEnabled rule.id, fails⟩ := by
  unfold build
  split
  · next error refused =>
    simp only [reduceCtorEq, false_iff, not_and, not_exists]
    intro known configured ready
    rw [Config.apply_eq_ok_iff.mpr ⟨known, ready⟩] at refused
    cases refused
  · next configured applied =>
    obtain ⟨known, ready⟩ := Config.apply_eq_ok_iff.mp applied
    rw [Except.ok.injEq]
    constructor
    · rintro rfl
      exact ⟨known, configured, ready, rfl⟩
    · rintro ⟨-, configured', ready', rfl⟩
      rw [Config.apply_eq_ok_iff.mpr ⟨known, ready'⟩] at applied
      cases applied
      rfl

theorem exists_of_mem_build (built : build rules config fails = .ok analyzer) {rule : Rule}
    (mem : rule ∈ analyzer.rules) : ∃ original ∈ rules, config.configure original = .ok rule := by
  obtain ⟨-, configured, ready, rfl⟩ := build_eq_ok_iff.mp built
  exact exists_of_mapM_eq_ok (mapM_eq_ok_iff.mpr ready) rule (List.mem_of_mem_filter mem)

end Analyzer

end SwiftStyle
