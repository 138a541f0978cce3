import Mathlib.Data.List.Basic
import SwiftStyle.Proofs.Declaration.Paths
import SwiftStyle.Rule.MissingDocs

/-!
What the rule for documentation reports. Whether a declaration is reported hangs on the declaration
itself and on the inheritance clause of the one directly around it, and on nothing else in the
tree; the reports come in post-order.
-/

namespace SwiftStyle

/-- The declaration of a file that a path ends at. -/
def SourceFile.declarationAt? (file : SourceFile) (path : List Nat) : Option Declaration :=
  file.root?.bind fun root => root.at? path

/-- The inheritance clause directly around the end of a path; empty around the root. -/
def SourceFile.clauseAround (file : SourceFile) (path : List Nat) : List String :=
  ((file.root?.bind fun root => root.parentAt? path).map Declaration.inherits).getD []

namespace MissingDocs

/-- A declaration that lacks documentation, where a clause is the inheritance clause directly
around it. -/
structure Undocumented (rule : MissingDocs) (index : DeclarationIndex) (clause : List String)
    (d : Declaration) : Prop where
  documentable : d.kind.isDocumentable = true
  bare : d.documentation = none
  graded : ∃ t ∈ rule.thresholds, d.access.level? = some t.value
  uncovered : ∀ type ∈ clause, ∀ member ∈ index.membersOf type, d.name ≠ some member

/-- A violation that tells of a declaration, with the severity of the last threshold of its
level. -/
structure TellsOf (rule : MissingDocs) (file : SourceFile) (d : Declaration) (v : Violation) :
    Prop where
  reporter : v.rule = info.reporter
  location : v.location = file.located (.offset d.offset)
  graded : ∃ before t after, rule.thresholds = before ++ t :: after ∧
    d.access.level? = some t.value ∧ (∀ u ∈ after, d.access.level? ≠ some u.value) ∧
    v.severity = t.severity ∧ v.reason = reason t.value

/-- The violation of one declaration, if it has any. -/
def own? (rule : MissingDocs) (file : SourceFile) (covered : List String) (d : Declaration) :
    Option Violation :=
  if isNamed covered d then none
  else (rule.threshold d).map fun passed =>
    ⟨info.reporter, passed.severity, file.located (.offset d.offset), reason passed.value⟩

theorem own_eq_toList (rule : MissingDocs) (file : SourceFile) (covered : List String)
    (d : Declaration) : rule.own file covered d = (rule.own? file covered d).toList := by
  unfold own own?
  split
  · rfl
  · cases rule.threshold d <;> rfl

theorem isNamed_iff {names : List String} {d : Declaration} :
    isNamed names d = true ↔ ∃ name ∈ names, d.name = some name := by
  unfold isNamed
  cases d.name <;> simp

theorem threshold_eq_some_iff {rule : MissingDocs} {d : Declaration} {t : Threshold AccessLevel} :
    rule.threshold d = some t ↔
      d.kind.isDocumentable = true ∧ d.documentation = none ∧ d.access.level? = some t.value ∧
        ∃ before after, rule.thresholds = before ++ t :: after ∧
          ∀ u ∈ after, d.access.level? ≠ some u.value := by
  unfold threshold
  split
  · next shown =>
    simp only [Bool.and_eq_true, Option.isNone_iff_eq_none] at shown
    rw [Option.bind_eq_some_iff]
    constructor
    · rintro ⟨level, graded, passed⟩
      obtain ⟨same, before, after, split, others⟩ := Threshold.escalate_eq_some_iff.mp passed
      obtain rfl := beq_iff_eq.mp same
      refine ⟨shown.1, shown.2, graded, before, after, split, fun u hu clash => ?_⟩
      have differs := others u hu
      rw [graded, Option.some.injEq] at clash
      simp [clash] at differs
    · rintro ⟨-, -, graded, before, after, split, others⟩
      refine ⟨t.value, graded, Threshold.escalate_eq_some_iff.mpr
        ⟨beq_self_eq_true _, before, after, split, fun u hu => ?_⟩⟩
      have differs := others u hu
      rw [graded, ne_eq, Option.some.injEq] at differs
      exact beq_eq_false_iff_ne.mpr fun same => differs same.symm
  · next hidden =>
    simp only [Bool.and_eq_true, Option.isNone_iff_eq_none] at hidden
    constructor
    · intro impossible
      cases impossible
    · rintro ⟨documentable, bare, -⟩
      exact absurd ⟨documentable, bare⟩ hidden

/-- A declaration is reported if and only if it lacks documentation, and then as it should be. -/
theorem own?_eq_some_iff {rule : MissingDocs} {file : SourceFile} {index : DeclarationIndex}
    {clause : List String} {d : Declaration} {v : Violation} :
    rule.own? file (clause.flatMap index.membersOf) d = some v ↔
      rule.Undocumented index clause d ∧ rule.TellsOf file d v := by
  have covered_iff : isNamed (clause.flatMap index.membersOf) d = true ↔
      ∃ type ∈ clause, ∃ member ∈ index.membersOf type, d.name = some member := by
    rw [isNamed_iff]
    simp only [List.mem_flatMap]
    constructor
    · rintro ⟨member, ⟨type, htype, hmember⟩, named⟩
      exact ⟨type, htype, member, hmember, named⟩
    · rintro ⟨type, htype, member, hmember, named⟩
      exact ⟨member, ⟨type, htype, hmember⟩, named⟩
  unfold own?
  split
  · next named =>
    obtain ⟨type, htype, member, hmember, named⟩ := covered_iff.mp named
    constructor
    · intro impossible
      cases impossible
    · rintro ⟨lacks, -⟩
      exact absurd named (lacks.uncovered type htype member hmember)
  · next unnamed =>
    have uncovered : ∀ type ∈ clause, ∀ member ∈ index.membersOf type, d.name ≠ some member :=
      fun type htype member hmember named =>
        unnamed (covered_iff.mpr ⟨type, htype, member, hmember, named⟩)
    rw [Option.map_eq_some_iff]
    constructor
    · rintro ⟨t, passed, rfl⟩
      obtain ⟨documentable, bare, graded, before, after, split, others⟩ :=
        threshold_eq_some_iff.mp passed
      have listed : t ∈ rule.thresholds := by simp [split]
      exact ⟨⟨documentable, bare, ⟨t, listed, graded⟩, uncovered⟩,
        ⟨rfl, rfl, before, t, after, split, graded, others, rfl, rfl⟩⟩
    · rintro ⟨lacks, tells⟩
      obtain ⟨before, t, after, split, graded, others, severity, reason⟩ := tells.graded
      refine ⟨t, threshold_eq_some_iff.mpr ⟨lacks.documentable, lacks.bare, graded, before, after,
        split, others⟩, ?_⟩
      cases v
      cases tells.reporter
      cases tells.location
      cases severity
      cases reason
      rfl

/-- The names that are documented elsewhere for the end of a path, given those for the start. -/
def coveredAt (index : DeclarationIndex) (covered : List String) (d : Declaration) :
    List Nat → List String
  | [] => covered
  | i :: path => ((d.parentAt? (i :: path)).map index.inheritedMembers).getD []

/-- Nothing is covered at the root of a file; elsewhere the clause around decides. -/
theorem coveredAt_nil {file : SourceFile} {root : Declaration} (parsed : file.root? = some root)
    (index : DeclarationIndex) (path : List Nat) :
    coveredAt index [] root path = (file.clauseAround path).flatMap index.membersOf := by
  unfold SourceFile.clauseAround
  rw [parsed, Option.bind_some]
  cases path with
  | nil => rfl
  | cons i path =>
    rw [coveredAt]
    cases root.parentAt? (i :: path) <;> rfl

theorem coveredAt_of_child {index : DeclarationIndex} {covered : List String}
    {d child : Declaration} {i : Nat} (found : d.children[i]? = some child) (path : List Nat) :
    coveredAt index covered d (i :: path)
      = coveredAt index (index.inheritedMembers d) child path := by
  cases path with
  | nil => rw [coveredAt, coveredAt, Declaration.parentAt?_singleton, Option.map_some,
      Option.getD_some]
  | cons j path => rw [coveredAt, coveredAt, Declaration.parentAt?_of_child found (by simp)]

mutual

theorem inTree_eq (rule : MissingDocs) (file : SourceFile) (index : DeclarationIndex)
    (covered : List String) : (d : Declaration) →
    rule.inTree file index covered d = d.paths.filterMap fun path =>
      (d.at? path).bind (rule.own? file (coveredAt index covered d path))
  | ⟨kind, name, offset, length, access, documentation, inherits, children⟩ => by
    have below := inTrees_eq rule file index covered
      ⟨kind, name, offset, length, access, documentation, inherits, children⟩ 0 children
      fun j => by rw [Nat.zero_add]
    rw [inTree, Declaration.paths_eq, List.filterMap_append, ← below, own_eq_toList]
    rfl

theorem inTrees_eq (rule : MissingDocs) (file : SourceFile) (index : DeclarationIndex)
    (covered : List String) (d : Declaration) (i : Nat) : (ds : List Declaration) →
    (∀ j : Nat, ds[j]? = d.children[i + j]?) →
    rule.inTrees file index (index.inheritedMembers d) ds =
      (Declaration.pathsFrom i ds).filterMap fun path =>
        (d.at? path).bind (rule.own? file (coveredAt index covered d path))
  | [], _ => by rw [inTrees, Declaration.pathsFrom, List.filterMap_nil]
  | child :: ds, numbered => by
    -- the numbers go on from `i`, so the first tree is the child of that number
    have found : d.children[i]? = some child := (numbered 0).symm
    have others := inTrees_eq rule file index covered d (i + 1) ds fun j => by
      rw [Nat.add_right_comm, Nat.add_assoc]
      exact numbered (j + 1)
    rw [inTrees, Declaration.pathsFrom, List.filterMap_append, ← others, List.filterMap_map,
      inTree_eq rule file index _ child]
    congr 1
    apply List.filterMap_congr
    intro path _
    rw [Function.comp_apply, Declaration.at?_of_child found, coveredAt_of_child found]

end

/-- The violation of the declaration at the end of a path, if it has any. -/
def at? (rule : MissingDocs) (file : SourceFile) (index : DeclarationIndex) (path : List Nat) :
    Option Violation :=
  (file.declarationAt? path).bind
    (rule.own? file ((file.clauseAround path).flatMap index.membersOf))

theorem at?_eq_some_iff {rule : MissingDocs} {file : SourceFile} {index : DeclarationIndex}
    {path : List Nat} {v : Violation} :
    rule.at? file index path = some v ↔
      ∃ d, file.declarationAt? path = some d ∧
        rule.Undocumented index (file.clauseAround path) d ∧ rule.TellsOf file d v := by
  simp only [at?, Option.bind_eq_some_iff, own?_eq_some_iff]

theorem violations_of_root? {file : SourceFile} {root : Declaration}
    (parsed : file.root? = some root) (rule : MissingDocs) (index : DeclarationIndex) :
    rule.violations file index = root.paths.filterMap (rule.at? file index) := by
  simp only [violations, parsed, inTree_eq, coveredAt_nil parsed]
  apply List.filterMap_congr
  intro path _
  rw [at?, SourceFile.declarationAt?, parsed, Option.bind_some]

theorem violations_of_unparsed {file : SourceFile} (unparsed : file.root? = none)
    (rule : MissingDocs) (index : DeclarationIndex) : rule.violations file index = [] := by
  rw [violations, unparsed]

/-- The rule reports the declarations that lack documentation, all of them, each once and in
post-order. -/
theorem violations_tell_of_undocumented (rule : MissingDocs) (file : SourceFile)
    (index : DeclarationIndex) :
    ∃ reported : List (List Nat × Violation),
      reported.map Prod.snd = rule.violations file index ∧
      (reported.map Prod.fst).Pairwise Declaration.Precedes ∧
      ∀ path v, (path, v) ∈ reported ↔
        ∃ d, file.declarationAt? path = some d ∧
          rule.Undocumented index (file.clauseAround path) d ∧ rule.TellsOf file d v := by
  cases parsed : file.root? with
  | none =>
    refine ⟨[], by rw [violations_of_unparsed parsed, List.map_nil], .nil, ?_⟩
    simp [SourceFile.declarationAt?, parsed]
  | some root =>
    refine ⟨root.paths.filterMap fun path => (rule.at? file index path).map (path, ·), ?_, ?_, ?_⟩
    · rw [violations_of_root? parsed, List.map_filterMap]
      simp only [Option.map_map]
      apply List.filterMap_congr
      intro path _
      exact Option.map_id'
    · rw [List.pairwise_map]
      refine (Declaration.paths_pairwise root).filterMap _ ?_
      intro path path' before first hfirst second hsecond
      obtain ⟨v, -, rfl⟩ := Option.map_eq_some_iff.mp hfirst
      obtain ⟨v', -, rfl⟩ := Option.map_eq_some_iff.mp hsecond
      exact before
    · intro path v
      rw [← at?_eq_some_iff, List.mem_filterMap]
      constructor
      · rintro ⟨path', -, reported⟩
        obtain ⟨v', found, same⟩ := Option.map_eq_some_iff.mp reported
        cases same
        exact found
      · intro found
        obtain ⟨d, inside, -⟩ := at?_eq_some_iff.mp found
        have listed : path ∈ root.paths := by
          rw [SourceFile.declarationAt?, parsed, Option.bind_some] at inside
          exact (Declaration.mem_paths_iff root).mpr (by rw [inside, Option.isSome_some])
        exact ⟨path, listed, Option.map_eq_some_iff.mpr ⟨v, found, rfl⟩⟩

end MissingDocs

end SwiftStyle
