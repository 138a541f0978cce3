import SwiftStyle.FileTree
import SwiftStyle.Path

/-!
A file tree seen from a working directory: what paths lead to, reading and writing. There are no
links, so every file and directory has exactly one location, the names that lead to it from the
root.
-/

namespace SwiftStyle

/-- Why a path does not lead to what is asked for. -/
inductive FileError where
  | notFound
  | notDirectory
  | isDirectory
  | notText
  deriving DecidableEq, Repr

/-- Why a path does not lead to what is asked for, in words. -/
def FileError.message : FileError → String
  | notFound => "No such file or directory (os error 2)"
  | notDirectory => "Not a directory (os error 20)"
  | isDirectory => "Is a directory (os error 21)"
  | notText => "stream did not contain valid UTF-8"

/-- A file tree, the location of the working directory, and the directory in which a configuration
for all projects may be. -/
structure Workspace where
  tree : FileTree
  directory : List String
  configDirectory : Option Path

namespace Workspace

/-- The location that parts of a path lead to from another location. Only a directory can be left
or entered. -/
def follow (tree : FileTree) (location : List String) :
    List (List Char) → Except FileError (List String)
  | [] => .ok location
  | part :: parts =>
    match tree.find? location with
    | none => .error .notFound
    | some (.file _) => .error .notDirectory
    | some (.directory entries) =>
      if Path.isSilent part then follow tree location parts
      else if part = ['.', '.'] then follow tree location.dropLast parts
      else
        let name := String.ofList part
        match entries.lookup name with
        | some _ => follow tree (location ++ [name]) parts
        | none => .error .notFound

/-- Where a path starts. -/
def startOf (w : Workspace) (path : Path) : List String :=
  if path.isAbsolute then [] else w.directory

/-- The location that a path leads to. The empty path leads nowhere. -/
def locate (w : Workspace) (path : Path) : Except FileError (List String) :=
  if path.text.isEmpty then .error .notFound
  else follow w.tree (w.startOf path) path.parts

/-- What a path leads to. -/
def get (w : Workspace) (path : Path) : Except FileError FileTree := do
  match w.tree.find? (← w.locate path) with
  | some tree => return tree
  | none => .error .notFound

/-- Whether a path leads to a file. -/
def isFile (w : Workspace) (path : Path) : Bool :=
  match w.get path with
  | .ok (.file _) => true
  | _ => false

/-- Whether a path leads to a directory. -/
def isDirectory (w : Workspace) (path : Path) : Bool :=
  match w.get path with
  | .ok (.directory _) => true
  | _ => false

/-- Whether a path leads to anything. -/
def contains (w : Workspace) (path : Path) : Bool :=
  match w.get path with
  | .ok _ => true
  | .error _ => false

/-- The one path from the root that leads to a location without detours. -/
def pathTo (location : List String) : Path := ⟨"/" ++ String.intercalate "/" location⟩

/-- The path from the root to where a path leads; the path itself if it leads nowhere. -/
def canonical (w : Workspace) (path : Path) : Path :=
  match w.locate path with
  | .ok location => pathTo location
  | .error _ => path

/-- The text of a file. -/
def read (w : Workspace) (path : Path) : Except FileError String := do
  match ← w.get path with
  | .file (.text text) => return text
  | .file (.binary _) => .error .notText
  | .directory _ => .error .isDirectory

/-- The location of a file that is yet to be made, if there is a directory for it. -/
def newLocation (w : Workspace) (path : Path) : Except FileError (List String) := do
  let location ← follow w.tree (w.startOf path) path.parts.dropLast
  let name := (path.parts.getLast?).getD []
  if Path.isSilent name || name = ['.', '.'] then .error .isDirectory
  else
    match w.tree.find? location with
    | some (.directory _) => return location ++ [String.ofList name]
    | some (.file _) => .error .notDirectory
    | none => .error .notFound

/-- The location of a file that is written to, which need not be there yet. -/
def target (w : Workspace) (path : Path) : Except FileError (List String) :=
  match w.locate path with
  | .ok location =>
    match w.tree.find? location with
    | some (.directory _) => .error .isDirectory
    | _ => .ok location
  | .error .notFound => if path.text.isEmpty then .error .notFound else w.newLocation path
  | .error error => .error error

/-- The workspace after a text was written to a file. -/
def write (w : Workspace) (path : Path) (text : String) : Except FileError Workspace :=
  (w.target path).map fun location =>
    { w with tree := FileTree.put (.file (.text text)) location w.tree }

end Workspace

end SwiftStyle
