/-!
JSON values. Numbers keep what tells them apart in the formats that are read here: an integer is
an integer, and any other number is its literal.
-/

namespace SwiftStyle

/-- A JSON value. The fields of an object keep the order in which they were written. -/
inductive Json where
  | null
  | bool (value : Bool)
  | integer (value : Int)
  | decimal (literal : String)
  | string (value : String)
  | array (items : List Json)
  | object (fields : List (String × Json))

namespace Json

/-- The value of a natural number. -/
def nat (n : Nat) : Json := .integer n

/-- A text, or null. -/
def ofString? : Option String → Json
  | some s => .string s
  | none => .null

/-- An array of texts. -/
def ofStrings (texts : List String) : Json := .array (texts.map .string)

/-- The value of a field; of fields with one name the last counts. -/
def field? (name : String) : Json → Option Json
  | .object fields => fields.reverse.lookup name
  | _ => none

/-- The items of an array. -/
def items? : Json → Option (List Json)
  | .array items => some items
  | _ => none

/-- The characters of a text value. -/
def string? : Json → Option String
  | .string s => some s
  | _ => none

/-- A truth value. -/
def bool? : Json → Option Bool
  | .bool b => some b
  | _ => none

/-- The first natural number that takes more than 64 bits. -/
def natLimit : Nat := Nat.pow 2 64

/-- A natural number of at most 64 bits. -/
def nat? : Json → Option Nat
  | .integer n => if 0 ≤ n ∧ n.toNat < natLimit then some n.toNat else none
  | _ => none

end Json

end SwiftStyle
