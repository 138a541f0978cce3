import SwiftStyle.Rule

/-!
Rules for a text that should not occur. Occurrences are found from left to right and do not
overlap; a rule that knows what to put in their place can mend them.
-/

namespace SwiftStyle

/-- A rule for one text. -/
structure Occurrence where
  reporter : Reporter
  pattern : List Char
  severity : Severity
  replacement : Option String

namespace Occurrence

/-- The rest of a text after a given start. -/
def stripStart? : List Char → List Char → Option (List Char)
  | [], cs => some cs
  | _ :: _, [] => none
  | p :: ps, c :: cs => if p = c then stripStart? ps cs else none

/-- The byte offsets of the occurrences of a pattern in a text that starts at some offset; `skip`
characters are still inside the last occurrence. An empty pattern occurs before every character
and at the end. -/
def offsetsFrom (pattern : List Char) (offset skip : Nat) : List Char → List Nat
  | [] => if pattern.isEmpty then [offset] else []
  | c :: cs =>
    match skip with
    | skip + 1 => offsetsFrom pattern (offset + c.utf8Size) skip cs
    | 0 =>
      match stripStart? pattern (c :: cs) with
      | some _ =>
        offset :: offsetsFrom pattern (offset + c.utf8Size) (pattern.length - 1) cs
      | none => offsetsFrom pattern (offset + c.utf8Size) 0 cs

/-- The byte offsets of all occurrences in a text. -/
def offsets (pattern text : List Char) : List Nat := offsetsFrom pattern 0 0 text

/-- The violations of a file. -/
def violations (rule : Occurrence) (file : SourceFile) : List Violation :=
  (offsets rule.pattern file.text.toList).map fun offset =>
    ⟨rule.reporter, rule.severity, file.located (.offset offset), "pattern found"⟩

/-- The edits that put a text in place of every occurrence. -/
def edits (rule : Occurrence) (replacement : String) (file : SourceFile) : List Edit :=
  (offsets rule.pattern file.text.toList).map fun offset =>
    ⟨offset, offset + Text.size rule.pattern, replacement, rule.reporter⟩

/-- The rule under a section, which can only override the severity. -/
def configure (rule : Occurrence) (s : Section) : Except ConfigError Occurrence := do
  s.rejectUnknown rule.reporter.id []
  return { rule with severity := s.severity.getD rule.severity }

/-- What the rule does. -/
def behaviour (rule : Occurrence) : Behaviour where
  severity := rule.severity
  violations file _ := rule.violations file
  edits? := rule.replacement.map fun replacement file _ => rule.edits replacement file

/-- The rule among others. -/
def toRule (rule : Occurrence) : Rule where
  info := ⟨rule.reporter.id, rule.reporter.name, "", ⟨[], [], []⟩⟩
  behaviour := rule.behaviour
  configure s := (rule.configure s).map behaviour

end Occurrence

end SwiftStyle
