import SwiftStyle.Json
import SwiftStyle.ParseTree.Outline

/-!
Parse trees from JSON values: the rows of a tree, each an array of its kind, its role or null, its
two offsets, its flags and the number of its children.
-/

namespace SwiftStyle.ParseTree

/-- Reads a row. Of the flags, 1 says that the node is named and 2 that it was missing. -/
def Row.ofJson? (json : Json) : Option Row := do
  match ← json.items? with
  | [kind, role, start, stop, flags, childCount] =>
    let flags ← flags.nat?
    return ⟨← kind.string?, role.string?, ← start.nat?, ← stop.nat?, flags % 2 = 1,
      flags / 2 % 2 = 1, ← childCount.nat?⟩
  | _ => none

/-- Reads a tree. -/
def ofJson? (json : Json) : Option ParseTree := do
  ofRows? (← (← json.items?).mapM Row.ofJson?)

/-- Reads an object that has the tree of each text in a field of that name. -/
def tableOfJson? : Json → Option (List (String × ParseTree))
  | .object fields => fields.mapM fun (text, rows) => (ofJson? rows).map fun tree => (text, tree)
  | _ => none

/-- The parser that looks up its trees in a table. -/
def tableParser (table : List (String × ParseTree)) : Parser :=
  parser fun text => table.lookup text

end SwiftStyle.ParseTree
