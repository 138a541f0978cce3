import SwiftStyle.Json

/-!
Writing JSON: on one line, or with every item on a line of its own and two spaces for each level.
-/

namespace SwiftStyle.Json

/-- A hexadecimal digit. -/
def hexDigit (n : Nat) : Char := if n < 10 then Char.ofNat (48 + n) else Char.ofNat (87 + n)

/-- A character inside a string. Only quotes, backslashes and control characters are escaped. -/
def escapeChar (c : Char) : List Char :=
  if c = '"' then ['\\', '"']
  else if c = '\\' then ['\\', '\\']
  else if c = '\x08' then ['\\', 'b']
  else if c = '\x0c' then ['\\', 'f']
  else if c = '\n' then ['\\', 'n']
  else if c = '\r' then ['\\', 'r']
  else if c = '\t' then ['\\', 't']
  else if c.toNat < 0x20 then
    ['\\', 'u', '0', '0', hexDigit (c.toNat / 16), hexDigit (c.toNat % 16)]
  else [c]

/-- A string with its quotes. -/
def quote (s : String) : String :=
  String.ofList ('"' :: s.toList.flatMap escapeChar ++ ['"'])

mutual

/-- A value on one line. -/
def render : Json → String
  | .null => "null"
  | .bool true => "true"
  | .bool false => "false"
  | .integer n => toString n
  | .decimal literal => literal
  | .string s => quote s
  | .array items => "[" ++ String.intercalate "," (renderAll items) ++ "]"
  | .object fields => "\x7b" ++ String.intercalate "," (renderFields fields) ++ "\x7d"

/-- Each item of an array. -/
def renderAll : List Json → List String
  | [] => []
  | item :: items => render item :: renderAll items

/-- Each field of an object. -/
def renderFields : List (String × Json) → List String
  | [] => []
  | (name, value) :: fields => (quote name ++ ":" ++ render value) :: renderFields fields

end

/-- The start of a line at some level. -/
def indent (level : Nat) : String := String.ofList (List.replicate (2 * level) ' ')

/-- Items between brackets, each on a line of its own one level further in. -/
def block (opening closing : String) (level : Nat) (items : List String) : String :=
  if items.isEmpty then opening ++ closing
  else
    opening ++ "\n"
      ++ String.intercalate ",\n" (items.map fun item => indent (level + 1) ++ item)
      ++ "\n" ++ indent level ++ closing

mutual

/-- A value over several lines, its first line at the given level. -/
def pretty (level : Nat) : Json → String
  | .array items => block "[" "]" level (prettyAll (level + 1) items)
  | .object fields => block "\x7b" "\x7d" level (prettyFields (level + 1) fields)
  | .null => "null"
  | .bool true => "true"
  | .bool false => "false"
  | .integer n => toString n
  | .decimal literal => literal
  | .string s => quote s

/-- Each item of an array at a level. -/
def prettyAll (level : Nat) : List Json → List String
  | [] => []
  | item :: items => pretty level item :: prettyAll level items

/-- Each field of an object at a level. -/
def prettyFields (level : Nat) : List (String × Json) → List String
  | [] => []
  | (name, value) :: fields =>
    (quote name ++ ": " ++ pretty level value) :: prettyFields level fields

end

end SwiftStyle.Json
