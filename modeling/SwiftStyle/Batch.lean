import SwiftStyle.Analyzer
import SwiftStyle.Config.Source
import SwiftStyle.Discovery
import SwiftStyle.Rule.Builtin

/-!
Batches: the files of each group of paths with an analyzer for them. A file that several groups
reach belongs to the first of them. Nothing is run before all batches are there.
-/

namespace SwiftStyle

/-- Why a run cannot be set up. -/
inductive SetupError where
  | config (path : Path) (error : ConfigFileError)
  | pattern (error : PatternError)
  | analyzer (error : AnalyzerError)
  deriving DecidableEq, Repr

namespace SetupError

/-- What is said of an error, followed by its causes. -/
def chain : SetupError → List String
  | config path (.unreadable error) =>
    [s!"Failed to load config: {path.text}",
      s!"Failed to read config file {path.text}: {error.message}", error.message]
  | config path .malformed =>
    [s!"Failed to load config: {path.text}", "Failed to parse config: no valid configuration"]
  | pattern (.excluded text error) => [s!"Invalid exclude pattern: {text}", error.message]
  | pattern (.included text error) => [s!"Invalid include pattern: {text}", error.message]
  | analyzer error => "Failed to build analyzer" :: error.message :: error.causes

end SetupError

/-- Files with the analyzer that looks at them. -/
structure Batch where
  analyzer : Analyzer
  files : List SourceFile

namespace Batch

/-- The groups of some paths with their configurations. -/
def resolve (w : Workspace) (named : Option Path) (paths : List Path) :
    Except SetupError (List ConfigGroup) :=
  (ConfigSource.resolve w named paths).mapError fun (path, error) => .config path error

/-- The analyzer of a configuration, with all built-in rules. It passes over files that cannot be
parsed. -/
def analyzerOf (config : Config) : Except SetupError Analyzer :=
  (Analyzer.build Rule.builtin config false).mapError SetupError.analyzer

/-- The files that a group reaches, apart from those that earlier groups reached. -/
def reached (w : Workspace) (seen : List Path) (group : ConfigGroup) :
    Except SetupError (List Path) := do
  let found ← (Discovery.discover w group.config group.paths).mapError SetupError.pattern
  return found.filter fun path => !seen.any path.isSame

/-- The batches of several groups, given the paths that are taken already. -/
def ofGroups (w : Workspace) (parser : Parser) (seen : List Path) :
    List ConfigGroup → Except SetupError (List Batch)
  | [] => .ok []
  | group :: groups => do
    let paths ← reached w seen group
    let analyzer ← analyzerOf group.config
    let batches ← ofGroups w parser (seen ++ paths) groups
    return ⟨analyzer, Discovery.load w parser paths⟩ :: batches

/-- The batches of the paths of a command line. -/
def ofPaths (w : Workspace) (parser : Parser) (named : Option Path) (paths : List Path) :
    Except SetupError (List Batch) := do
  ofGroups w parser [] (← resolve w named paths)

end Batch

end SwiftStyle
