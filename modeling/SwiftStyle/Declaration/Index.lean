import SwiftStyle.Declaration

/-!
Which members the types of a run have, by the name of the type. Several declarations of one name,
such as a type and its extensions, add to one entry.
-/

namespace SwiftStyle

/-- Member names by type name, in the order in which the names were first seen. -/
structure DeclarationIndex where
  entries : List (String × List String)
  deriving DecidableEq, Repr

namespace DeclarationIndex

/-- An index of nothing. -/
def empty : DeclarationIndex := ⟨[]⟩

/-- The entries with some members added to the entry of a type, which is made if need be. -/
def addMembers (type : String) (members : List String) :
    List (String × List String) → List (String × List String)
  | [] => [(type, members)]
  | (known, old) :: rest =>
    if known = type then (known, old ++ members) :: rest
    else (known, old) :: addMembers type members rest

/-- Adds the members of one declaration, if it is a type with a name. -/
def record (index : DeclarationIndex) (d : Declaration) : DeclarationIndex :=
  match d.name with
  | some name =>
    if d.kind.isType then ⟨addMembers name d.memberNames index.entries⟩ else index
  | none => index

/-- Adds every type of a tree. -/
def insert (index : DeclarationIndex) (root : Declaration) : DeclarationIndex :=
  root.walk.foldl record index

/-- The index of several trees. -/
def ofTrees (roots : List Declaration) : DeclarationIndex := roots.foldl insert empty

/-- The members of a type; none if the type is not known. -/
def membersOf (index : DeclarationIndex) (type : String) : List String :=
  (index.entries.lookup type).getD []

/-- The members of all types that a declaration inherits from, in the order of its clause. -/
def inheritedMembers (index : DeclarationIndex) (d : Declaration) : List String :=
  d.inherits.flatMap index.membersOf

/-- The number of types that are known. -/
def size (index : DeclarationIndex) : Nat := index.entries.length

/-- Whether nothing is known. -/
def isEmpty (index : DeclarationIndex) : Bool := index.entries.isEmpty

end DeclarationIndex

end SwiftStyle
