import SwiftStyle.Access
import SwiftStyle.Declaration.Kind

/-!
Declarations of a Swift file, as a tree. The tree is visited in two ways: `walk` keeps the
declarations still to be visited on a stack, `preorder` recurses into the children.
-/

namespace SwiftStyle

/-- A declaration with the bytes it covers and the declarations inside it. -/
structure Declaration where
  kind : DeclarationKind
  name : Option String
  /-- The byte offset of the first modifier. -/
  offset : Nat
  length : Nat
  access : Access
  /-- The documentation comment before the declaration. -/
  documentation : Option String
  /-- The names in the inheritance clause, in order. -/
  inherits : List String
  children : List Declaration

namespace Declaration

/-- The byte offset just after a declaration. -/
def stop (d : Declaration) : Nat := d.offset + d.length

/-- The names of the declarations directly inside, where they have one. -/
def memberNames (d : Declaration) : List String := d.children.filterMap name

mutual

/-- The number of declarations in a tree. -/
def weight : Declaration → Nat
  | ⟨_, _, _, _, _, _, _, children⟩ => weightAll children + 1

/-- The number of declarations in several trees. -/
def weightAll : List Declaration → Nat
  | [] => 0
  | d :: ds => weight d + weightAll ds

end

mutual

/-- A declaration, then everything inside it from left to right. -/
def preorder : Declaration → List Declaration
  | ⟨kind, name, offset, length, access, documentation, inherits, children⟩ =>
    ⟨kind, name, offset, length, access, documentation, inherits, children⟩
      :: preorderAll children

/-- Several trees one after the other. -/
def preorderAll : List Declaration → List Declaration
  | [] => []
  | d :: ds => preorder d ++ preorderAll ds

end

theorem weight_eq (d : Declaration) : d.weight = weightAll d.children + 1 := by
  cases d; rfl

@[simp]
theorem weightAll_append (ds es : List Declaration) :
    weightAll (ds ++ es) = weightAll ds + weightAll es := by
  induction ds with
  | nil => simp [weightAll]
  | cons d ds ih => simp [weightAll, ih, Nat.add_assoc]

/-- Visits the declarations of a stack: the top one, then its children, which take its place. -/
def walkStack : List Declaration → List Declaration
  | [] => []
  | d :: stack => d :: walkStack (d.children ++ stack)
termination_by stack => weightAll stack
decreasing_by
  simp only [weightAll_append, weightAll, weight_eq]
  omega

/-- Every declaration of a tree, parents before children and children in order. -/
def walk (d : Declaration) : List Declaration := walkStack [d]

end Declaration

end SwiftStyle
