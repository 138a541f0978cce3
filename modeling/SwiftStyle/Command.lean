import SwiftStyle.Command.Autocorrect
import SwiftStyle.Command.Init
import SwiftStyle.Command.Lint
import SwiftStyle.Command.RuleTable

/-!
The commands, each a function of the workspace it is run in.
-/

namespace SwiftStyle

/-- A command with its settings. -/
inductive Command where
  | lint (paths : List Path) (format : ListingFormat) (strict : Bool)
  | autocorrect (paths : List Path) (dryRun : Bool)
  | rules
  | init (force : Bool)
  deriving DecidableEq, Repr

/-- A command and the configuration file named with it. -/
structure Invocation where
  config : Option Path
  command : Command
  deriving DecidableEq, Repr

/-- What comes of a command: the exit code, what it prints, its error, and the workspace
afterwards. -/
structure Outcome where
  exitCode : Nat
  output : String
  error : Option CommandError
  workspace : Workspace

namespace Outcome

/-- A command that does its work. -/
def success (w : Workspace) (output : String) : Outcome := ⟨0, output, none, w⟩

/-- A command that fails prints nothing and changes nothing. -/
def failure (w : Workspace) (error : CommandError) : Outcome := ⟨1, "", some error, w⟩

end Outcome

namespace Invocation

/-- Runs a command. -/
def run (w : Workspace) (parser : Parser) (invocation : Invocation) : Outcome :=
  match invocation.command with
  | .lint paths format strict =>
    match Command.lintFiles w parser invocation.config paths format strict with
    | .ok (output, exitCode) => ⟨exitCode, output, none, w⟩
    | .error error => .failure w error
  | .autocorrect paths dryRun =>
    match Command.correctFiles w parser invocation.config paths dryRun with
    | .ok (after, output) => .success after output
    | .error error => .failure w error
  | .rules => .success w Command.ruleTable
  | .init force =>
    match Command.writeConfig w force with
    | .ok (after, output) => .success after output
    | .error error => .failure w error

end Invocation

end SwiftStyle
