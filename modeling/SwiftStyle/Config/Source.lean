import SwiftStyle.Config
import SwiftStyle.Workspace

/-!
Where the configuration of a path comes from: a file named on the command line, else the nearest
one in the directory of the path or above it, else the one for all projects, else none. Paths with
one source are looked at together.
-/

namespace SwiftStyle

/-- Where a configuration comes from. -/
inductive ConfigSource where
  | explicit (path : Path)
  | project (path : Path)
  | global (path : Path)
  | default
  deriving DecidableEq, Repr

/-- Why a configuration file cannot be loaded. -/
inductive ConfigFileError where
  | unreadable (error : FileError)
  | malformed
  deriving DecidableEq, Repr

/-- Paths under one configuration, in the order of the command line. -/
structure ConfigGroup where
  source : ConfigSource
  config : Config
  paths : List Path

namespace ConfigSource

/-- The file of a source. -/
def path? : ConfigSource → Option Path
  | explicit path => some path
  | project path => some path
  | global path => some path
  | default => none

/-- Whether two sources are of one kind and their paths make the same steps. -/
def isSame : ConfigSource → ConfigSource → Bool
  | explicit a, explicit b => a.isSame b
  | project a, project b => a.isSame b
  | global a, global b => a.isSame b
  | default, default => true
  | _, _ => false

/-- The names of configuration files in a project; the first one that is there counts. -/
def projectNames : List String := ["style-lint.toml", ".style-lint.toml"]

/-- The directory in which the search for the configuration of a path begins: the path itself if
it is a directory, else the one it is in. Made absolute if it is there. -/
def searchStart (w : Workspace) (path : Path) : Path :=
  if w.isDirectory path then w.canonical path
  else
    match path.parent? with
    | some parent => w.canonical (if parent.text.isEmpty then ⟨"."⟩ else parent)
    | none => w.canonical ⟨"."⟩

/-- The configuration file of a project, looked for from the start of the search upwards. -/
def projectFile? (w : Workspace) (path : Path) : Option Path :=
  let candidates := (searchStart w path).ancestors.flatMap fun directory =>
    projectNames.map directory.join
  candidates.find? w.isFile

/-- The configuration file for all projects. -/
def globalFile? (w : Workspace) : Option Path :=
  (w.configDirectory.map fun directory => directory.join "config.toml").filter w.isFile

/-- Where the configuration of a path comes from, given the file named on the command line. -/
def locate (w : Workspace) (named : Option Path) (path : Path) : ConfigSource :=
  match named with
  | some path => explicit path
  | none =>
    match projectFile? w path with
    | some path => project path
    | none =>
      match globalFile? w with
      | some path => global path
      | none => default

/-- The configuration of a source, with the path of a file that cannot be loaded. -/
def load (w : Workspace) (source : ConfigSource) :
    Except (Path × ConfigFileError) Config :=
  match source.path? with
  | none => .ok Config.default
  | some path =>
    match w.read path with
    | .error error => .error (path, .unreadable error)
    | .ok text =>
      match Config.parse? text with
      | some config => .ok config
      | none => .error (path, .malformed)

/-- Groups with a path added to that of its source, or in a new group at the end. -/
def addTo (source : ConfigSource) (path : Path) :
    List (ConfigSource × List Path) → List (ConfigSource × List Path)
  | [] => [(source, [path])]
  | (known, paths) :: groups =>
    if known.isSame source then (known, paths ++ [path]) :: groups
    else (known, paths) :: addTo source path groups

/-- Paths by the source of their configuration, both in the order of the paths. -/
def groups (w : Workspace) (named : Option Path) (paths : List Path) :
    List (ConfigSource × List Path) :=
  paths.foldl (fun groups path => addTo (locate w named path) path groups) []

/-- Paths by the source of their configuration, each group with what is loaded from there. -/
def resolve (w : Workspace) (named : Option Path) (paths : List Path) :
    Except (Path × ConfigFileError) (List ConfigGroup) :=
  (groups w named paths).mapM fun (source, paths) => do
    return ⟨source, ← load w source, paths⟩

end ConfigSource

end SwiftStyle
