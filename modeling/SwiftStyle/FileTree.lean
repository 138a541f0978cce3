/-!
A tree of directories and files. The entries of a directory are kept in ascending order of their
names.
-/

namespace SwiftStyle

/-- What a file holds: a text, or bytes that are none. -/
inductive Content where
  | text (value : String)
  | binary (bytes : List UInt8)
  deriving DecidableEq, Repr

/-- The content that bytes make: their text if they are valid UTF-8. -/
def Content.ofBytes (bytes : List UInt8) : Content :=
  match String.fromUTF8? ⟨bytes.toArray⟩ with
  | some decoded => .text decoded
  | none => .binary bytes

/-- A file, or a directory with its entries. -/
inductive FileTree where
  | file (content : Content)
  | directory (entries : List (String × FileTree))

namespace FileTree

/-- A directory without entries. -/
def empty : FileTree := directory []

/-- The entries of a directory; a file has none. -/
def entries : FileTree → List (String × FileTree)
  | file _ => []
  | directory entries => entries

/-- Whether a tree is a directory. -/
def isDirectory : FileTree → Bool
  | file _ => false
  | directory _ => true

/-- What is found under a list of names. -/
def find? : List String → FileTree → Option FileTree
  | [], tree => some tree
  | name :: names, tree => (tree.entries.lookup name).bind (find? names)

/-- Entries in which the one of a name is changed, or added in its place in the order. -/
def alter (name : String) (change : Option FileTree → FileTree) :
    List (String × FileTree) → List (String × FileTree)
  | [] => [(name, change none)]
  | (known, old) :: rest =>
    if known = name then (known, change (some old)) :: rest
    else if name < known then (name, change none) :: (known, old) :: rest
    else (known, old) :: alter name change rest

/-- A tree with another one under a list of names. Directories on the way are made if they are
missing; below a file nothing is put. -/
def put (new : FileTree) : List String → FileTree → FileTree
  | [], _ => new
  | _ :: _, file content => file content
  | name :: names, directory entries =>
    directory (alter name (fun old? => put new names (old?.getD empty)) entries)

/-- A tree with a directory under a list of names, if there is nothing yet. -/
def makeDirectory (names : List String) (tree : FileTree) : FileTree :=
  if (tree.find? names).isSome then tree else put empty names tree

mutual

/-- The files of a tree, each with the names that lead to it. -/
def files (under : List String) : FileTree → List (List String × Content)
  | file content => [(under, content)]
  | directory entries => filesIn under entries

/-- The files of several entries. -/
def filesIn (under : List String) : List (String × FileTree) → List (List String × Content)
  | [] => []
  | (name, tree) :: rest => files (under ++ [name]) tree ++ filesIn under rest

end

/-- The files that are new in a tree, or hold something else than in the tree before. -/
def changes (before after : FileTree) : List (List String × Content) :=
  let old := before.files []
  (after.files []).filter fun (names, content) => old.lookup names != some content

end FileTree

end SwiftStyle
