import SwiftStyle.Rule.Builtin

/-!
The command that lists the built-in rules.
-/

namespace SwiftStyle.Command

/-- A text with spaces after it up to some number of characters. -/
def padded (width : Nat) (text : String) : String :=
  text ++ String.ofList (List.replicate (width - text.length) ' ')

/-- A line of the table. -/
def tableLine (id name correctable severity description : String) : String :=
  String.intercalate " "
    [padded 28 id, padded 28 name, padded 12 correctable, padded 9 severity, description]

/-- The line of a rule. -/
def ruleLine (rule : Rule) : String :=
  tableLine rule.id rule.info.name (if rule.isCorrectable then "yes" else "no")
    rule.behaviour.severity.name rule.info.description

/-- The table of the built-in rules, with a hint at how they are configured. -/
def ruleTable : String :=
  let lines :=
    ["Available rules:", "",
      tableLine "Identifier" "Name" "Correctable" "Severity" "Description",
      String.ofList (List.replicate 100 '-')]
    ++ Rule.builtin.map ruleLine
    ++ ["", "Configure rules in style-lint.toml, e.g.:", "  [rules.line_length]",
      "  warning = 120"]
  String.join (lines.map fun line => line ++ "\n")

end SwiftStyle.Command
