import SwiftStyle.Text.Utf8

/-!
Concrete parse trees of Swift texts. A tree is handed over as rows, one for each node, a parent
before its children; `ofRows?` rebuilds it from the last row to the first.
-/

namespace SwiftStyle

/-- A node of a parse tree with the bytes it covers. -/
structure ParseTree where
  kind : String
  /-- The role of the node below its parent. -/
  field : Option String
  start : Nat
  stop : Nat
  isNamed : Bool
  /-- Whether the parser put the node in where it missed something. -/
  isMissing : Bool
  children : List ParseTree

namespace ParseTree

/-- A node without its children, of which it only gives the number. -/
structure Row where
  kind : String
  field : Option String
  start : Nat
  stop : Nat
  isNamed : Bool
  isMissing : Bool
  childCount : Nat
  deriving DecidableEq, Repr

/-- The trees of a list of rows. A row takes its children from the trees after it. -/
def ofRows (rows : List Row) : List ParseTree :=
  rows.foldr (fun row trees =>
    ⟨row.kind, row.field, row.start, row.stop, row.isNamed, row.isMissing,
      trees.take row.childCount⟩ :: trees.drop row.childCount) []

/-- The tree of which the first row is the root. -/
def ofRows? (rows : List Row) : Option ParseTree := (ofRows rows).head?

/-- The characters a node covers; none if it does not fall on characters of the text. -/
def text (source : List Char) (node : ParseTree) : List Char :=
  (Text.slice? node.start node.stop source).getD []

/-- The first child in a role. -/
def child? (role : String) (node : ParseTree) : Option ParseTree :=
  node.children.find? (·.field == some role)

mutual

/-- The number of nodes in a tree. -/
def weight : ParseTree → Nat
  | ⟨_, _, _, _, _, _, children⟩ => weightAll children + 1

/-- The number of nodes in several trees. -/
def weightAll : List ParseTree → Nat
  | [] => 0
  | node :: nodes => weight node + weightAll nodes

end

theorem weight_eq (node : ParseTree) : node.weight = weightAll node.children + 1 := by
  cases node; rfl

@[simp]
theorem weightAll_append (xs ys : List ParseTree) :
    weightAll (xs ++ ys) = weightAll xs + weightAll ys := by
  induction xs with
  | nil => simp [weightAll]
  | cons x xs ih => simp [weightAll, ih, Nat.add_assoc]

end ParseTree

end SwiftStyle
