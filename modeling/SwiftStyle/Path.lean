/-!
Paths as they are spelled, and what the spelling means. A path is cut at its slashes; empty parts
and single dots say nothing, except for a single dot at the very start. Paths are ordered and told
apart by what is left, and shown as they were spelled.
-/

namespace SwiftStyle

/-- A path as it is spelled. -/
structure Path where
  text : String
  deriving DecidableEq, Repr

namespace Path

/-- A step of a path: to the root, to where one is, to the parent, or to something by its name. -/
inductive Component where
  | root
  | here
  | up
  | name (name : String)
  deriving DecidableEq, Repr

/-- The place of a component in their order; names come last. -/
def Component.rank : Component → Nat
  | root => 0
  | here => 1
  | up => 2
  | name _ => 3

/-- Whether a component comes before another one. Names are in the order of their bytes, which is
the order of their characters. -/
def Component.isBefore : Component → Component → Bool
  | name a, name b => a < b
  | a, b => a.rank < b.rank

/-- A text cut at its slashes. -/
def split : List Char → List (List Char)
  | [] => [[]]
  | c :: cs =>
    match split cs with
    | [] => [[c]]
    | part :: parts => if c = '/' then [] :: part :: parts else (c :: part) :: parts

/-- The parts of a path between its slashes. -/
def parts (path : Path) : List (List Char) := split path.text.toList

/-- The path of some parts. -/
def ofParts (parts : List (List Char)) : Path := ⟨String.ofList (['/'].intercalate parts)⟩

/-- Whether a path starts at the root. -/
def isAbsolute (path : Path) : Bool := path.text.toList.head? = some '/'

/-- Whether a part says nothing where it stands. -/
def isSilent (part : List Char) : Bool := part.isEmpty || part = ['.']

/-- The step that a part makes. -/
def componentOf (part : List Char) : Component :=
  if part = ['.', '.'] then .up else .name (String.ofList part)

/-- The steps that parts make when none of them is at the start of a path. -/
def stepsOf (parts : List (List Char)) : List Component :=
  (parts.filter fun part => !isSilent part).map componentOf

/-- The steps of a path. -/
def components (path : Path) : List Component :=
  match path.parts with
  | [] => []
  | first :: rest =>
    if path.isAbsolute then .root :: stepsOf rest
    else if first = ['.'] then .here :: stepsOf rest
    else stepsOf (first :: rest)

/-- Whether two paths make the same steps. -/
def isSame (a b : Path) : Bool := a.components == b.components

/-- Whether steps come before others or are the same: by the first step that differs, and a start
before what goes on. -/
def stepsAtMost : List Component → List Component → Bool
  | [], _ => true
  | _ :: _, [] => false
  | a :: as, b :: bs => if a = b then stepsAtMost as bs else a.isBefore b

/-- The order of paths: that of their steps. -/
def isAtMost (a b : Path) : Bool := stepsAtMost a.components b.components

/-- A path followed by another one, which stands for itself if it starts at the root. -/
def join (path : Path) (next : String) : Path :=
  if isAbsolute ⟨next⟩ then ⟨next⟩
  else if path.text.isEmpty || path.text.toList.getLast? = some '/' then ⟨path.text ++ next⟩
  else ⟨path.text ++ "/" ++ next⟩

/-- The path of an entry in a directory. An entry of the directory one is in is spelled by its
name alone. -/
def entry (path : Path) (name : String) : Path :=
  if path.components = [.here] then ⟨name⟩ else path.join name

/-- Parts without those at the end that say nothing. -/
def trimEnd (parts : List (List Char)) : List (List Char) :=
  (parts.reverse.dropWhile isSilent).reverse

/-- The path without its last step. The root has none, nor has the empty path. -/
def parent? (path : Path) : Option Path :=
  match path.parts with
  | [] => none
  | first :: rest =>
    let body := trimEnd rest
    if body.isEmpty then
      if first.isEmpty then none else some ⟨""⟩
    else
      let before := trimEnd body.dropLast
      if first.isEmpty && before.isEmpty then some ⟨"/"⟩ else some (ofParts (first :: before))

/-- A path and its parents, at most so many of them. -/
def parentsUpTo : Nat → Path → List Path
  | 0, path => [path]
  | n + 1, path =>
    path :: match path.parent? with
      | some parent => parentsUpTo n parent
      | none => []

/-- A path, its parent, the parent of that, and so on. Every parent makes one step less. -/
def ancestors (path : Path) : List Path := parentsUpTo path.components.length path

/-- The parts that are left after some steps, from the next step on. -/
def partsAfter : Nat → List (List Char) → List (List Char)
  | 0, parts => parts.dropWhile isSilent
  | n + 1, parts => partsAfter n ((parts.dropWhile isSilent).drop 1)

/-- What a path spells after the steps of another one, if it starts with them. -/
def after? (path base : Path) : Option Path :=
  let steps := base.components.length
  if base.components.isPrefixOf path.components then
    match steps, path.parts with
    | n + 1, first :: rest =>
      let isStep := path.isAbsolute || first = ['.']
      some (ofParts (trimEnd (if isStep then partsAfter n rest
        else partsAfter (n + 1) (first :: rest))))
    | _, _ => some path
  else none

/-- Paths without those that are the same as the one before them. -/
def dedup : List Path → List Path
  | a :: b :: paths =>
    if a.isSame b then dedup (a :: paths) else a :: dedup (b :: paths)
  | paths => paths
termination_by paths => paths.length

/-- Paths in ascending order, and of those that make the same steps the first only. -/
def sorted (paths : List Path) : List Path := dedup (paths.mergeSort isAtMost)

end Path

end SwiftStyle
