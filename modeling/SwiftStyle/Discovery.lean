import SwiftStyle.Config
import SwiftStyle.Glob.Search

/-!
Which files a run looks at. A path that leads to a file stands for itself; a directory is searched
with the patterns of the configuration.
-/

namespace SwiftStyle

/-- A pattern of a configuration that cannot be read: one for files to leave out, or one for files
to take in. -/
inductive PatternError where
  | excluded (pattern : String) (error : Glob.SyntaxError)
  | included (pattern : String) (error : Glob.SyntaxError)
  deriving DecidableEq, Repr

namespace Discovery

/-- The patterns for files to take in; without any, those whose name ends as Swift files do. -/
def included (config : Config) : List String :=
  if config.included.isEmpty then ["**/*.swift"] else config.included

/-- The compiled patterns for files to leave out. -/
def excluded (config : Config) : Except PatternError (List Glob.Pattern) :=
  config.excluded.mapM fun pattern =>
    (Glob.parse pattern.toList).mapError (PatternError.excluded pattern)

/-- The files that one pattern selects inside a directory. -/
def selectIn (w : Workspace) (root : Path) (pattern : String) :
    Except PatternError (List Path) :=
  let text := Glob.escape root.text.toList ++ '/' :: pattern.toList
  match Glob.select w text with
  | .ok paths => .ok (paths.filter w.isFile)
  | .error error => .error (.included pattern error)

/-- Whether a path found in a directory is left out. The patterns see what the path spells after
the directory, if it starts with that, and all of it otherwise. -/
def isExcluded (patterns : List Glob.Pattern) (root path : Path) : Bool :=
  let relative := (path.after? root).getD path
  patterns.any fun pattern => Glob.accepts pattern relative.text.toList

/-- The files of a directory, pattern by pattern. -/
def search (w : Workspace) (config : Config) (excluded : List Glob.Pattern) (root : Path) :
    Except PatternError (List Path) := do
  let found ← (included config).mapM (selectIn w root)
  return found.flatten.filter fun path => !isExcluded excluded root path

/-- The files that a path of the command line stands for. What is not there is left out. -/
def expand (w : Workspace) (config : Config) (excluded : List Glob.Pattern) (path : Path) :
    Except PatternError (List Path) :=
  if w.isFile path then .ok [path]
  else if w.isDirectory path then search w config excluded path
  else .ok []

/-- The files that several paths stand for together, in ascending order and each path once. -/
def discover (w : Workspace) (config : Config) (paths : List Path) :
    Except PatternError (List Path) := do
  let excluded ← excluded config
  let found ← paths.mapM (expand w config excluded)
  return Path.sorted found.flatten

/-- The files of some paths with their texts. What cannot be read as text is left out. -/
def load (w : Workspace) (parser : Parser) (paths : List Path) : List SourceFile :=
  paths.filterMap fun path =>
    match w.read path with
    | .ok text => some ⟨some path.text, text, parser⟩
    | .error _ => none

end Discovery

end SwiftStyle
