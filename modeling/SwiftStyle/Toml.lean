import SwiftStyle.Decimal.Binary64

/-!
TOML values, and documents under construction. A document is built statement by statement: each
one changes the table that a path of keys leads to, and is refused if it would redefine something.
-/

namespace SwiftStyle

/-- A TOML value. The fields of a table are in the order in which they are written. -/
inductive Toml where
  | string (value : String)
  | integer (value : Int)
  | float (value : Binary64)
  | boolean (value : Bool)
  | datetime (text : String)
  | array (items : List Toml)
  | table (fields : List (String × Toml))

namespace Toml

/-- A part of a document under construction: a finished value, a table, or an array of tables
with the latest first. A table is implicit if only paths through it made it, and dotted if a
dotted key made it. -/
inductive Node where
  | value (value : Toml)
  | table (isImplicit isDotted : Bool) (fields : List (String × Node))
  | tables (latestFirst : List Node)

namespace Node

/-- A table that is spelled out and holds nothing yet. -/
def emptyTable : Node := table false false []

/-- The fields with one of them replaced, or added at the end. -/
def setField (key : String) (node : Node) : List (String × Node) → List (String × Node)
  | [] => [(key, node)]
  | (known, old) :: rest =>
    if known = key then (key, node) :: rest else (known, old) :: setField key node rest

/-- Changes the table that a path leads to. Tables that are missing on the way are made. An array
of tables stands for its latest one. A dotted key may only pass through implicit tables. -/
def update (dotted : Bool) (change : Node → Option Node) : List String → Node → Option Node
  | [], node => change node
  | key :: path, table isImplicit isDotted fields =>
    let child : Option Node :=
      match fields.lookup key with
      | none => update dotted change path (table true dotted [])
      | some (value _) => none
      | some (tables []) => none
      | some (tables (latest :: earlier)) =>
        (update dotted change path latest).map fun latest => tables (latest :: earlier)
      | some (table isImplicit isDotted fields) =>
        if dotted && !isImplicit then none
        else update dotted change path (table isImplicit isDotted fields)
    child.map fun child => table isImplicit isDotted (setField key child fields)
  | _ :: _, _ => none

/-- Adds a field to a table, which must not have one of that key. A plain key goes into a table
that is spelled out, a dotted one into a table that dotted keys made. -/
def addField (isDottedKey : Bool) (key : String) (v : Toml) : Node → Option Node
  | table isImplicit isDotted fields =>
    if isDotted = isDottedKey && (fields.lookup key).isNone then
      some (table isImplicit isDotted (fields ++ [(key, value v)]))
    else none
  | _ => none

/-- Adds a value under a path of keys, of which the last one names the field. -/
def addValue (path : List String) (key : String) (v : Toml) : Node → Option Node :=
  update true (addField (!path.isEmpty) key v) path

/-- Opens the table of a header: a new one, or one that so far was only passed through. It comes
after the fields that are there. -/
def openTable (key : String) : Node → Option Node
  | table isImplicit isDotted fields =>
    let others := fields.filter fun (known, _) => known != key
    match fields.lookup key with
    | none => some (table isImplicit isDotted (others ++ [(key, emptyTable)]))
    | some (table true false inner) =>
      some (table isImplicit isDotted (others ++ [(key, table false false inner)]))
    | some _ => none
  | _ => none

/-- Opens one more table in the array of a header. -/
def openArrayItem (key : String) : Node → Option Node
  | table isImplicit isDotted fields =>
    match fields.lookup key with
    | none => some (table isImplicit isDotted (setField key (tables [emptyTable]) fields))
    | some (tables latestFirst) =>
      some (table isImplicit isDotted (setField key (tables (emptyTable :: latestFirst)) fields))
    | some _ => none
  | _ => none

end Node

mutual

/-- The value that a finished part of a document stands for. -/
def Node.finish : Node → Toml
  | .value v => v
  | .table _ _ fields => .table (finishFields fields)
  | .tables latestFirst => .array (finishAll latestFirst).reverse

/-- The values of several parts. -/
def finishAll : List Node → List Toml
  | [] => []
  | node :: nodes => node.finish :: finishAll nodes

/-- The values of several fields. -/
def finishFields : List (String × Node) → List (String × Toml)
  | [] => []
  | (key, node) :: fields => (key, node.finish) :: finishFields fields

end

/-- The value of a field. -/
def field? (key : String) : Toml → Option Toml
  | .table fields => fields.lookup key
  | _ => none

end Toml

end SwiftStyle
