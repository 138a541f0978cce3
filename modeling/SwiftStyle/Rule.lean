import SwiftStyle.Config.Section
import SwiftStyle.Edit

/-!
Rules. A rule looks at one file at a time, with an index of the members that the types of the whole
run have, and reports violations; some rules also request edits that mend them.
-/

namespace SwiftStyle

/-- Texts that show what a rule is about. -/
structure Examples where
  accepted : List String
  flagged : List String
  corrections : List (String × String)

/-- What identifies and explains a rule. -/
structure RuleInfo where
  id : String
  name : String
  description : String
  examples : Examples

/-- A rule as the one who reports. -/
def RuleInfo.reporter (info : RuleInfo) : Reporter := ⟨info.id, info.name⟩

/-- What a rule does under one configuration. -/
structure Behaviour where
  /-- The severity that the rule is listed with. -/
  severity : Severity
  violations : SourceFile → DeclarationIndex → List Violation
  /-- The edits that mend violations, for a rule that can. -/
  edits? : Option (SourceFile → DeclarationIndex → List Edit)

/-- A rule: what it is, what it does, and what it does instead under a section of its own. -/
structure Rule where
  info : RuleInfo
  behaviour : Behaviour
  configure : Section → Except ConfigError Behaviour

namespace Rule

/-- The identifier of a rule. -/
def id (rule : Rule) : String := rule.info.id

/-- Whether a rule can mend what it reports. -/
def isCorrectable (rule : Rule) : Bool := rule.behaviour.edits?.isSome

/-- The edits a rule requests; none if it cannot mend anything. -/
def edits (rule : Rule) (file : SourceFile) (index : DeclarationIndex) : List Edit :=
  match rule.behaviour.edits? with
  | some edits => edits file index
  | none => []

/-- The file corrected by one rule alone, with the corrections; none if the rule cannot. -/
def correct? (rule : Rule) (file : SourceFile) (index : DeclarationIndex) :
    Option (SourceFile × List Correction) :=
  rule.behaviour.edits?.map fun edits => file.applyEdits (edits file index)

end Rule

end SwiftStyle
