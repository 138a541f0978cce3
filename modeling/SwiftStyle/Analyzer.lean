import SwiftStyle.Config
import SwiftStyle.Report

/-!
Running rules over files. All files are indexed before any rule runs, so that every rule sees the
members of the types in all of them.
-/

namespace SwiftStyle

/-- The rules of a run under their configuration. -/
structure Analyzer where
  rules : List Rule
  /-- Whether a file that cannot be parsed ends the run. -/
  failsOnParseError : Bool

/-- Why a run does not take place. -/
inductive AnalyzerError where
  | config (error : ConfigError)
  | unparsable (path : Option String) (failure : ParseFailure)
  deriving DecidableEq, Repr

/-- Why a run does not take place, in words. -/
def AnalyzerError.message : AnalyzerError → String
  | config error => s!"Configuration error: {error.message}"
  | unparsable path failure => s!"Parse error in {displayName path}: {failure.describe}"

/-- What lies behind an error, in words. -/
def AnalyzerError.causes : AnalyzerError → List String
  | config error => [error.message]
  | unparsable _ _ => []

namespace Analyzer

/-- The rules that a configuration leaves enabled, each under its section. -/
def build (rules : List Rule) (config : Config) (failsOnParseError : Bool) :
    Except AnalyzerError Analyzer :=
  match config.apply rules with
  | .error error => .error (.config error)
  | .ok configured =>
    .ok ⟨configured.filter fun rule => config.isEnabled rule.id, failsOnParseError⟩

/-- The index of all files that can be parsed. -/
def indexOf (files : List SourceFile) : DeclarationIndex :=
  .ofTrees (files.filterMap SourceFile.root?)

/-- The first file that cannot be parsed, as an error. -/
def firstFailure? (files : List SourceFile) : Option AnalyzerError :=
  files.findSome? fun file =>
    match file.outline with
    | .ok _ => none
    | .error failure => some (.unparsable file.path failure)

/-- The index of a run, unless a file that cannot be parsed ends it. -/
def index (analyzer : Analyzer) (files : List SourceFile) :
    Except AnalyzerError DeclarationIndex :=
  match if analyzer.failsOnParseError then firstFailure? files else none with
  | some error => .error error
  | none => .ok (indexOf files)

/-- The violations of a file, rule by rule. -/
def violations (analyzer : Analyzer) (index : DeclarationIndex) (file : SourceFile) :
    List Violation :=
  analyzer.rules.flatMap fun rule => rule.behaviour.violations file index

/-- The edits that the rules request together, rule by rule. -/
def edits (analyzer : Analyzer) (index : DeclarationIndex) (file : SourceFile) : List Edit :=
  analyzer.rules.flatMap fun rule => rule.edits file index

/-- The report of one file under an index. -/
def lintWith (analyzer : Analyzer) (index : DeclarationIndex) (file : SourceFile) : FileReport :=
  match file.outline with
  | .error failure => ⟨file.path, [], [], some failure.describe⟩
  | .ok _ => ⟨file.path, analyzer.violations index file, [], none⟩

/-- One file with its corrections made under an index, and the report. The edits of all rules
are applied together. -/
def correctWith (analyzer : Analyzer) (index : DeclarationIndex) (file : SourceFile) :
    SourceFile × FileReport :=
  match file.outline with
  | .error failure => (file, ⟨file.path, [], [], some failure.describe⟩)
  | .ok _ =>
    let (corrected, corrections) := file.applyEdits (analyzer.edits index file)
    (corrected, ⟨file.path, [], corrections, none⟩)

/-- Looks at files together. -/
def lint (analyzer : Analyzer) (files : List SourceFile) : Except AnalyzerError RunReport := do
  let index ← analyzer.index files
  return ⟨files.map (analyzer.lintWith index)⟩

/-- Corrects files together. -/
def correct (analyzer : Analyzer) (files : List SourceFile) :
    Except AnalyzerError (List SourceFile × RunReport) := do
  let index ← analyzer.index files
  let results := files.map (analyzer.correctWith index)
  return (results.map Prod.fst, ⟨results.map Prod.snd⟩)

/-- Looks at one file on its own. -/
def lintFile (analyzer : Analyzer) (file : SourceFile) : FileReport :=
  analyzer.lintWith file.ownIndex file

/-- Corrects one file on its own. -/
def correctFile (analyzer : Analyzer) (file : SourceFile) : SourceFile × FileReport :=
  analyzer.correctWith file.ownIndex file

end Analyzer

end SwiftStyle
