import SwiftStyle.Rule
import SwiftStyle.Threshold

/-!
The rule that asks for documentation of what others can see. A member that carries out what a
type declares that its own type inherits from is covered by the documentation there.
-/

namespace SwiftStyle

/-- The rule with the access levels that it looks at. -/
structure MissingDocs where
  thresholds : List (Threshold AccessLevel)
  deriving DecidableEq, Repr

namespace MissingDocs

/-- What the rule is called and what it is about. -/
def info : RuleInfo where
  id := "missing_docs"
  name := "Missing Docs"
  description := "Public declarations should be documented."
  examples := {
    accepted := [
      "/// docs\npublic func a() \x7b\x7d\n",
      "/** docs */\npublic func a() \x7b\x7d\n",
      "func a() \x7b\x7d\n",
      "internal func a() \x7b\x7d\n",
      "private func a() \x7b\x7d\n",
      "// regular comment\nfunc a() \x7b\x7d\n",
      "/* regular comment */\nfunc a() \x7b\x7d\n",
      "/// docs\npublic protocol A \x7b\n/// docs\nvar b: Int \x7b get \x7d \x7d\n"
        ++ "/// docs\npublic struct C: A \x7b\npublic let b: Int\n\x7d"]
    flagged := [
      "public func a() \x7b\x7d\n",
      "// regular comment\npublic func a() \x7b\x7d\n",
      "/* regular comment */\npublic func a() \x7b\x7d\n",
      "/// docs\npublic protocol A \x7b\n// no docs\nvar b: Int \x7b get \x7d \x7d\n"
        ++ "/// docs\npublic struct C: A \x7b\n\npublic let b: Int\n\x7d"]
    corrections := [] }

/-- A warning for public declarations. -/
def default : MissingDocs := ⟨[⟨.warning, .public⟩]⟩

/-- The threshold of a level that a configuration names. -/
def threshold? (key : String) (severity : Severity) (word : String) :
    Except ConfigError (Threshold AccessLevel) :=
  match AccessLevel.ofWord? word with
  | some level => .ok ⟨severity, level⟩
  | none => .error (.invalidOption info.id key (.unknownLevel word))

/-- The levels that an option lists for a severity. -/
def levels (s : Section) (key : String) (severity : Severity) :
    Except ConfigError (List (Threshold AccessLevel)) := do
  match ← s.texts info.id key with
  | some words => words.mapM (threshold? key severity)
  | none => return []

/-- The rule under a section. The levels listed there replace those of the rule, and an override
of the severity goes to every level. -/
def configure (rule : MissingDocs) (s : Section) : Except ConfigError MissingDocs := do
  s.rejectUnknown info.id ["warning", "error"]
  let warnings ← levels s "warning" .warning
  let errors ← levels s "error" .error
  let isListed := s.options.any fun (key, _) => key == "warning" || key == "error"
  let thresholds := if isListed then warnings ++ errors else rule.thresholds
  return ⟨match s.severity with
    | some severity => thresholds.map fun threshold => { threshold with severity }
    | none => thresholds⟩

/-- The severity that the rule is listed with. -/
def severity (rule : MissingDocs) : Severity :=
  match rule.thresholds with
  | first :: _ => first.severity
  | [] => .warning

/-- What is said of a declaration of some level. -/
def reason (level : AccessLevel) : String := s!"{level.title} declarations should be documented."

/-- The threshold that a declaration passes when it is seen without its surroundings: it can be
documented, it is not, and its level is among those of the rule. -/
def threshold (rule : MissingDocs) (d : Declaration) : Option (Threshold AccessLevel) :=
  if d.kind.isDocumentable && d.documentation.isNone then
    d.access.level?.bind fun level => Threshold.escalate rule.thresholds (· == level)
  else
    none

/-- Whether a declaration has one of some names. -/
def isNamed (names : List String) (d : Declaration) : Bool :=
  match d.name with
  | some name => names.contains name
  | none => false

/-- The violation of one declaration. The names are those of the members that are documented
elsewhere. -/
def own (rule : MissingDocs) (file : SourceFile) (covered : List String) (d : Declaration) :
    List Violation :=
  if isNamed covered d then []
  else
    match rule.threshold d with
    | some passed =>
      [⟨info.reporter, passed.severity, file.located (.offset d.offset), reason passed.value⟩]
    | none => []

mutual

/-- The violations in a tree, those inside a declaration before its own. -/
def inTree (rule : MissingDocs) (file : SourceFile) (index : DeclarationIndex)
    (covered : List String) : Declaration → List Violation
  | ⟨kind, name, offset, length, access, documentation, inherits, children⟩ =>
    inTrees rule file index (inherits.flatMap index.membersOf) children
      ++ rule.own file covered
        ⟨kind, name, offset, length, access, documentation, inherits, children⟩

/-- The violations in several trees, one after the other. -/
def inTrees (rule : MissingDocs) (file : SourceFile) (index : DeclarationIndex)
    (covered : List String) : List Declaration → List Violation
  | [] => []
  | d :: ds => inTree rule file index covered d ++ inTrees rule file index covered ds

end

/-- The violations of a file; none if it cannot be parsed. -/
def violations (rule : MissingDocs) (file : SourceFile) (index : DeclarationIndex) :
    List Violation :=
  match file.root? with
  | some root => inTree rule file index [] root
  | none => []

/-- What the rule does. -/
def behaviour (rule : MissingDocs) : Behaviour where
  severity := rule.severity
  violations := rule.violations
  edits? := none

/-- The rule among others. -/
def toRule (rule : MissingDocs) : Rule where
  info := info
  behaviour := rule.behaviour
  configure s := (rule.configure s).map behaviour

end MissingDocs

end SwiftStyle
