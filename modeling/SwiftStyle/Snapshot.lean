import SwiftStyle.Command.Arguments
import SwiftStyle.ParseTree.Json

/-!
A directory tree handed over as a JSON value, with the parse trees of the texts in it, and what
comes of running a command line there.
-/

namespace SwiftStyle

/-- A workspace and the parse trees of texts. -/
structure Snapshot where
  workspace : Workspace
  trees : List (String × ParseTree)

namespace Snapshot

/-- The location that a path from the root spells. -/
def locationOf (path : String) : List String :=
  ((Path.mk path).parts.filter fun part => !Path.isSilent part).map String.ofList

/-- Reads what a file holds: a text, or an array of bytes. -/
def contentOfJson? : Json → Option Content
  | .string text => some (.text text)
  | .array bytes => (bytes.mapM Json.nat?).map fun bytes => .ofBytes (bytes.map UInt8.ofNat)
  | _ => none

/-- A tree with a file put into it. -/
def putFile? (tree : FileTree) (entry : String × Json) : Option FileTree :=
  (contentOfJson? entry.2).map fun content =>
    FileTree.put (.file content) (locationOf entry.1) tree

/-- Reads the files and the directories of a workspace. -/
def treeOfJson? (json : Json) : Option FileTree := do
  let files ←
    match json.field? "files" with
    | none => some []
    | some (.object fields) => some fields
    | some _ => none
  let directories ←
    match json.field? "dirs" with
    | none => some []
    | some value => (← value.items?).mapM Json.string?
  let tree ← files.foldlM putFile? .empty
  return directories.foldl (fun tree path => tree.makeDirectory (locationOf path)) tree

/-- Reads a snapshot: an object with the files, further directories, the working directory, the
directory for configurations of all projects, and the parse trees. -/
def ofJson? (json : Json) : Option Snapshot := do
  let directory ← (← json.field? "directory").string?
  let tree ← treeOfJson? json
  let trees ←
    match json.field? "trees" with
    | none => some []
    | some value => ParseTree.tableOfJson? value
  return {
    workspace := {
      tree := tree.makeDirectory (locationOf directory)
      directory := locationOf directory
      configDirectory := ((json.field? "config_dir").bind Json.string?).map Path.mk }
    trees := trees }

/-- What comes of a command line. -/
def run (snapshot : Snapshot) (arguments : List String) : Outcome :=
  let w := snapshot.workspace
  match Arguments.parse arguments with
  | .ok invocation => invocation.run w (ParseTree.tableParser snapshot.trees)
  | .error refusal => ⟨refusal.exitCode, "", none, w⟩

/-- A file that changed, as a field of its path. -/
def changeField (change : List String × Content) : String × Json :=
  ((Workspace.pathTo change.1).text,
    match change.2 with
    | .text text => .string text
    | .binary _ => .null)

/-- What comes of a command line as an object: the exit code, what is printed, the error, and the
files that changed. -/
def reply (snapshot : Snapshot) (outcome : Outcome) : Json :=
  .object [
    ("exit", .nat outcome.exitCode),
    ("stdout", .string outcome.output),
    ("error", .ofString? (outcome.error.map CommandError.report)),
    ("changed", .object
      ((snapshot.workspace.tree.changes outcome.workspace.tree).map changeField))]

end Snapshot

end SwiftStyle
