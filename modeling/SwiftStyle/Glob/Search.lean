import SwiftStyle.Glob
import SwiftStyle.Workspace

/-!
Looking for what a pattern with several components selects in a file tree. Components without
wildcards are followed as they are; the others are compared with the entries of directories, which
come in the order of their names.
-/

namespace SwiftStyle.Glob

/-- A place that a search has reached: how it is spelled, and its location. -/
structure Spot where
  path : Path
  location : List String
  deriving DecidableEq, Repr

namespace Spot

/-- The last name on the way to a spot. -/
def name (spot : Spot) : List Char := ((spot.location.getLast?).getD "").toList

/-- An entry of a spot. -/
def entry (spot : Spot) (name : String) : Spot :=
  ⟨spot.path.entry name, spot.location ++ [name]⟩

end Spot

/-- The tree at a spot. -/
def treeAt (w : Workspace) (spot : Spot) : FileTree :=
  (w.tree.find? spot.location).getD .empty

/-- Whether a spot is a directory. -/
def isDirectory (w : Workspace) (spot : Spot) : Bool := (treeAt w spot).isDirectory

/-- The spot that a path leads to, if it leads anywhere. -/
def reach? (w : Workspace) (path : Path) : Option Spot :=
  match w.locate path with
  | .ok location => some ⟨path, location⟩
  | .error _ => none

/-- The entries of a spot. -/
def children (w : Workspace) (spot : Spot) : List Spot :=
  (treeAt w spot).entries.map fun (name, _) => spot.entry name

mutual

/-- Everything below a spot, given its tree: each entry, then everything below the entry. -/
def below (spot : Spot) : FileTree → List Spot
  | .file _ => []
  | .directory entries => belowEntries spot entries

/-- Some entries of a spot, each with everything below it. -/
def belowEntries (spot : Spot) : List (String × FileTree) → List Spot
  | [] => []
  | (name, tree) :: rest =>
    spot.entry name :: below (spot.entry name) tree ++ belowEntries spot rest

end

/-- The directory itself and its parent, where a pattern that starts with a dot accepts their
names; the parent comes first. -/
def dots (w : Workspace) (pattern : Pattern) (spot : Spot) : List Spot :=
  if isDirectory w spot && pattern.head? = some (.character '.') then
    (["..", "."].filter fun name => accepts pattern name.toList).filterMap fun name =>
      reach? w (spot.path.join name)
  else []

/-- Everything below some spots. A spot that occurs several times counts once. -/
def allBelow (w : Workspace) (spots : List Spot) : List Spot :=
  spots.eraseDups.flatMap fun spot => below spot (treeAt w spot)

/-- What one component pattern selects from a spot. -/
def selectEntries (w : Workspace) (pattern : Pattern) (spot : Spot) : List Spot :=
  match literal? pattern with
  | some name => (reach? w (spot.path.entry (String.ofList name))).toList
  | none => dots w pattern spot ++ (children w spot).filter fun s => accepts pattern s.name

/-- Everything that a list of component patterns selects from some spots on. A pattern for any
directories passes on everything below the spots to the pattern after it; at the end it selects
directories. -/
def search (w : Workspace) (onlyDirectories : Bool) : List Pattern → List Spot → List Spot
  | [], spots => spots.filter fun spot => !onlyDirectories || isDirectory w spot
  | [[.anyDirectories]], spots => (allBelow w spots).filter (isDirectory w)
  | [.anyDirectories] :: pattern :: patterns, spots =>
    search w onlyDirectories patterns
      ((allBelow w spots).filter fun s => accepts pattern s.name)
  | pattern :: patterns, spots =>
    search w onlyDirectories patterns (spots.flatMap (selectEntries w pattern))

/-- Patterns in which any directories do not follow each other. -/
def collapse : List Pattern → List Pattern
  | [.anyDirectories] :: [.anyDirectories] :: patterns =>
    collapse ([.anyDirectories] :: patterns)
  | pattern :: patterns => pattern :: collapse patterns
  | [] => []
termination_by patterns => patterns.length

/-- A pattern cut at its slashes; one at the very end cuts off nothing. -/
def components (text : List Char) : List (List Char) :=
  let parts := Path.split text
  if parts.getLast? = some [] then parts.dropLast else parts

/-- The paths that a pattern selects. The whole pattern has to be well formed, and so has each of
its components. A pattern that starts with a slash is searched from the root, any other from the
working directory; one that ends with a slash selects directories only. -/
def select (w : Workspace) (text : List Char) : Except SyntaxError (List Path) := do
  let _ ← parse text
  let (start, rest) :=
    match text with
    | '/' :: rest => (Path.mk "/", rest)
    | rest => (Path.mk ".", rest)
  let patterns ← (components rest).mapM parse
  let onlyDirectories := text.getLast? = some '/'
  return (search w onlyDirectories (collapse patterns) (reach? w start).toList).map Spot.path

end SwiftStyle.Glob
