import SwiftStyle.Command.Error

/-!
The command that starts a configuration file.
-/

namespace SwiftStyle.Command

/-- The configuration that a project starts with. -/
def initialConfig : String := "# style-lint configuration

# Rules that should not run
disabled_rules = []

# When set, only these rules run
# only_rules = [\"line_length\", \"missing_docs\"]

# Glob patterns of files to lint, relative to the linted directory
# (default: every *.swift file)
# included = [\"Sources/**/*.swift\"]

# Glob patterns of files to skip
excluded = [
    \".build/**\",
    \"Pods/**\",
    \"Carthage/**\",
]

[rules.line_length]
# Lines past `warning` are warnings, lines past `error` are errors
warning = 100
error = 200

# [rules.function_visibility_order]
# severity = \"error\"

[rules.missing_docs]
# Access levels that must be documented, by severity
warning = [\"public\"]
# error = [\"internal\"]
"

/-- The name of the file that is made. -/
def configName : String := "style-lint.toml"

/-- What is said when the file was made. -/
def initNotice : String :=
  s!"Created {configName}\n\nNext steps:\n  1. Edit {configName} to configure rules\n"
    ++ "  2. Run: style-lint lint\n"

/-- Writes a configuration file into the working directory. One that is there is only replaced by
force. -/
def writeConfig (w : Workspace) (force : Bool) : Except CommandError (Workspace × String) :=
  let path := Path.join ⟨"."⟩ configName
  if w.contains path && !force then .error (.configExists path)
  else
    match w.write path initialConfig with
    | .ok w => .ok (w, initNotice)
    | .error error => .error (.unwritable path error)

end SwiftStyle.Command
