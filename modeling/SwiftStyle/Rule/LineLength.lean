import SwiftStyle.Rule
import SwiftStyle.Threshold

/-!
The rule that limits the length of a line. Lengths count clusters and leave out the end of the
line. The limits form a ladder: a line past the first is a warning, past the second an error.
-/

namespace SwiftStyle

/-- The rule with its limits, the mildest first. -/
structure LineLength where
  thresholds : List (Threshold Nat)
  deriving DecidableEq, Repr

namespace LineLength

/-- A line of slashes. -/
def slashes (n : Nat) : String := String.ofList (List.replicate n '/' ++ ['\n'])

/-- What the rule is called and what it is about. -/
def info : RuleInfo where
  id := "line_length"
  name := "Line Length"
  description := "Lines should not span too many characters."
  examples := ⟨[slashes 100], [slashes 101, slashes 201], []⟩

/-- The rule with two limits. -/
def ofLimits (warning error : Nat) : LineLength := ⟨Threshold.ladder [warning, error]⟩

/-- A warning past 100 clusters, an error past 200. -/
def default : LineLength := ofLimits 100 200

/-- The thresholds with another limit at the lowest one, which is added as a warning if there is
none. -/
def setFirst (limit : Nat) : List (Threshold Nat) → List (Threshold Nat)
  | [] => [⟨.warning, limit⟩]
  | first :: rest => { first with value := limit } :: rest

/-- The thresholds with another limit at the second one, which is added as an error if there is
none. -/
def setSecond (limit : Nat) : List (Threshold Nat) → List (Threshold Nat)
  | first :: second :: rest => first :: { second with value := limit } :: rest
  | thresholds => thresholds ++ [⟨.error, limit⟩]

/-- The thresholds with another severity at the lowest one. -/
def setSeverity (severity : Severity) : List (Threshold Nat) → List (Threshold Nat)
  | [] => []
  | first :: rest => { first with severity } :: rest

/-- A change that is made only if there is something to change to. -/
def change {α β : Type} (set : α → β → β) : Option α → β → β
  | some a, b => set a b
  | none, b => b

/-- The ladder that a list of limits asks for. An empty list is an error. -/
def ladder? (limits : List Nat) : Except ConfigError (List (Threshold Nat)) :=
  if limits.isEmpty then .error (.invalidOption info.id "thresholds" .noLimit)
  else .ok (Threshold.ladder limits)

/-- The rule under a section. A list of limits comes first, single limits change it, and an
override of the severity goes to the lowest limit. -/
def configure (rule : LineLength) (s : Section) : Except ConfigError LineLength := do
  s.rejectUnknown info.id ["thresholds", "warning", "error"]
  let thresholds ←
    match ← s.naturals info.id "thresholds" with
    | some limits => ladder? limits
    | none => .ok rule.thresholds
  let warning ← s.natural info.id "warning"
  let error ← s.natural info.id "error"
  let limits := change setSecond error (change setFirst warning thresholds)
  return ⟨change setSeverity s.severity limits⟩

/-- The severity that the rule is listed with. -/
def severity (rule : LineLength) : Severity :=
  match rule.thresholds with
  | first :: _ => first.severity
  | [] => .warning

/-- What is said of a line that is too long. -/
def reason (limit length : Nat) : String :=
  s!"Line should be {limit} characters or less: currently {length} characters"

/-- The violation of one line, if it is too long. The reason always quotes the lowest limit. -/
def violation? (thresholds : List (Threshold Nat)) (quoted : Nat) (file : SourceFile)
    (line : Text.Line) : Option Violation :=
  let length := Text.Cluster.count line.content
  (Threshold.escalate thresholds fun limit => limit < length).map fun passed =>
    ⟨info.reporter, passed.severity, file.located (.line line.number), reason quoted length⟩

/-- The violations of all lines, in order. -/
def violations (rule : LineLength) (file : SourceFile) : List Violation :=
  match rule.thresholds with
  | [] => []
  | first :: _ =>
    (Text.lines file.text.toList).filterMap (violation? rule.thresholds first.value file)

/-- What the rule does. -/
def behaviour (rule : LineLength) : Behaviour where
  severity := rule.severity
  violations file _ := rule.violations file
  edits? := none

/-- The rule among others. -/
def toRule (rule : LineLength) : Rule where
  info := info
  behaviour := rule.behaviour
  configure s := (rule.configure s).map behaviour

end LineLength

end SwiftStyle
