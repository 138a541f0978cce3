import SwiftStyle.Text.Reader
import SwiftStyle.Toml.Scalar

/-!
Reading TOML documents, version 1.0. Containers nest less than eighty deep.
-/

namespace SwiftStyle.Toml

open SwiftStyle.Text (Reader)
open SwiftStyle.Text.Reader

/-- The depth from which on nested containers, and the length from which on dotted keys, are
refused. -/
def nestingLimit : Nat := 80

/-- Whether a character may stand in comments and, apart from its delimiters, in strings. -/
def isPlain (c : Char) : Bool := c = '\t' || (0x20 ≤ c.toNat && c.toNat ≠ 0x7f)

/-- Spaces and tabs. -/
def blanks : Reader Unit := do
  let _ ← takeWhile fun c => c = ' ' || c = '\t'

/-- The end of a line. -/
def newline : Reader Unit := char '\n' <|> literal ['\r', '\n']

/-- A comment up to the end of its line. -/
def comment : Reader Unit := do
  char '#'
  let _ ← takeWhile isPlain

/-- What may follow a statement on its line. -/
def lineEnd : Reader Unit := do
  blanks
  let _ ← optional? comment
  newline <|> atEnd

/-- Blanks, comments and line ends between the items of an array. -/
def gap : Reader Unit := do
  let _ ← many do
    match ← peek? with
    | some '#' => do comment; newline
    | some '\n' | some '\r' => newline
    | some ' ' | some '\t' => blanks
    | _ => fail

/-- A character given by so many hexadecimal digits. -/
def hexChar (count : Nat) : Reader Char := do
  let digits ← repeatAtMost (satisfy fun c => (digit? 16 c).isSome) count
  if digits.length = count then
    let code := digits.foldl (fun n c => 16 * n + (digit? 16 c).getD 0) 0
    if code.isValidChar then pure (Char.ofNat code) else fail
  else fail

/-- The character that an escape stands for, after its backslash. -/
def escape : Reader Char := do
  match ← satisfy fun _ => true with
  | 'b' => pure '\x08'
  | 't' => pure '\t'
  | 'n' => pure '\n'
  | 'f' => pure '\x0c'
  | 'r' => pure '\r'
  | '"' => pure '"'
  | '\\' => pure '\\'
  | 'u' => hexChar 4
  | 'U' => hexChar 8
  | _ => fail

/-- A string between double quotes on one line. -/
def basicString : Reader (List Char) := do
  char '"'
  let content ← many do
    match ← satisfy fun c => isPlain c && c ≠ '"' with
    | '\\' => escape
    | c => pure c
  char '"'
  return content

/-- A string between single quotes on one line, without escapes. -/
def literalString : Reader (List Char) := do
  char '\x27'
  let content ← takeWhile fun c => isPlain c && c ≠ '\x27'
  char '\x27'
  return content

/-- A piece of a string over several lines: a backslash at the end of a line takes away the white
space up to the next character. -/
def multilinePiece : Reader (List Char) := do
  match ← peek? with
  | some '\\' => do
    char '\\'
    (do
      blanks
      newline
      let _ ← many (do blanks; newline)
      blanks
      return []) <|> (do return [← escape])
  | some '\n' | some '\r' => do
    newline
    return ['\n']
  | _ => do return [← satisfy fun c => isPlain c && c ≠ '"']

/-- A piece of a literal string over several lines. -/
def multilineLiteralPiece : Reader (List Char) := do
  match ← peek? with
  | some '\n' | some '\r' => do
    newline
    return ['\n']
  | _ => do return [← satisfy fun c => isPlain c && c ≠ '\x27']

/-- One or two quotes that do not belong to the closing three: another character follows them. -/
def innerQuotes (quote : Char) : Reader (List Char) := do
  let cs ← rest
  let run := cs.takeWhile (· = quote)
  if run.length = 1 || run.length = 2 then takeWhile (· = quote) else fail

/-- The closing quotes of a string over several lines, with up to two that belong to it. -/
def closingQuotes (quote : Char) : Reader (List Char) := do
  let run ← takeWhile (· = quote)
  if 3 ≤ run.length && run.length ≤ 5 then return run.drop 3 else fail

/-- A string over several lines between three quotes. A line end right after the opening quotes
does not count. -/
def multiline (quote : Char) (piece : Reader (List Char)) : Reader (List Char) := do
  literal [quote, quote, quote]
  let _ ← optional? newline
  let pieces ← many (innerQuotes quote <|> piece)
  let last ← closingQuotes quote
  return pieces.flatten ++ last

/-- Any string. -/
def anyString : Reader (List Char) :=
  multiline '"' multilinePiece <|> multiline '\x27' multilineLiteralPiece
    <|> basicString <|> literalString

/-- One part of a key: a bare word or a string on one line. -/
def simpleKey : Reader String := do
  match ← peek? with
  | some '"' => return String.ofList (← basicString)
  | some '\x27' => return String.ofList (← literalString)
  | _ => return String.ofList (← takeWhile1 fun c => c.isAlphanum || c = '_' || c = '-')

/-- A dotted key: the parts before the last, and the last. -/
def key : Reader (List String × String) := do
  let parts ← separated (char '.') do
    blanks
    let part ← simpleKey
    blanks
    return part
  if nestingLimit ≤ parts.length then fail
  else
    match parts.getLast? with
    | some last => return (parts.dropLast, last)
    | none => fail

/-- Whether a character can be part of a scalar without quotes. -/
def isScalarChar (c : Char) : Bool :=
  c.isAlphanum || c = '_' || c = '+' || c = '-' || c = '.' || c = ':'

/-- A scalar without quotes. A space may stand between a date and a time. -/
def scalar : Reader Toml := do
  let word ← takeWhile1 isScalarChar
  let following ← rest
  match date? word, following with
  | some (_, []), ' ' :: c :: _ =>
    if c.isDigit then
      char ' '
      let time ← takeWhile1 isScalarChar
      ofOption (scalar? (word ++ ' ' :: time))
    else ofOption (scalar? word)
  | _, _ => ofOption (scalar? word)

/-- The items of an array between its brackets, given how to read one. A comma may follow the
last. -/
def arrayOf (item : Reader Toml) : Reader Toml := do
  char '['
  let items ← (separated (char ',') do
    gap
    let v ← item
    gap
    return v) <|> pure []
  let _ ← if items.isEmpty then pure none else optional? (char ',')
  gap
  char ']'
  return .array items

/-- A key with its value, given how to read a value. -/
def pairOf (item : Reader Toml) : Reader (List String × String × Toml) := do
  let (path, last) ← key
  char '='
  blanks
  let v ← item
  return (path, last, v)

/-- The table that some pairs make. -/
def tableOf? (pairs : List (List String × String × Toml)) : Option Toml :=
  (pairs.foldlM (fun node (path, last, v) => Node.addValue path last v node)
    Node.emptyTable).map Node.finish

/-- A table on one line, given how to read a value. -/
def inlineTableOf (item : Reader Toml) : Reader Toml := do
  char '\x7b'
  blanks
  let pairs ← (separated (char ',') do
    blanks
    let pair ← pairOf item
    blanks
    return pair) <|> pure []
  char '\x7d'
  ofOption (tableOf? pairs)

/-- A value without other values inside. -/
def plainValue : Reader Toml := do
  match ← peek? with
  | some '"' | some '\x27' => return .string (String.ofList (← anyString))
  | _ => scalar

/-- A value in which containers nest at most so deep. -/
def valueWithin : Nat → Reader Toml
  | 0 => plainValue
  | depth + 1 => do
    match ← peek? with
    | some '[' => arrayOf (valueWithin depth)
    | some '\x7b' => inlineTableOf (valueWithin depth)
    | _ => plainValue

/-- Any value. -/
def value : Reader Toml := valueWithin (nestingLimit - 1)

/-- A statement: what it changes. -/
inductive Statement where
  | blank
  | field (path : List String) (key : String) (value : Toml)
  | table (path : List String) (key : String)
  | arrayItem (path : List String) (key : String)

/-- The header of an array item. -/
def arrayHeader : Reader Statement := do
  literal ['[', '[']
  let (path, last) ← key
  literal [']', ']']
  lineEnd
  return .arrayItem path last

/-- The header of a table. -/
def tableHeader : Reader Statement := do
  char '['
  let (path, last) ← key
  char ']'
  lineEnd
  return .table path last

/-- A statement or a line without one. -/
def statement : Reader Statement := do
  blanks
  match ← peek? with
  | none => fail
  | some '#' | some '\n' | some '\r' => do
    lineEnd
    return .blank
  | some '[' => arrayHeader <|> tableHeader
  | _ => do
    let (path, last, v) ← pairOf value
    lineEnd
    return .field path last v

/-- The statements of a document. A byte order mark before them is skipped. -/
def document : Reader (List Statement) := do
  let _ ← optional? (char '\ufeff')
  let statements ← many statement
  blanks
  return statements

/-- A document under construction and the path of the table that fields go into. -/
structure Builder where
  root : Node
  current : List String

/-- Carries out one statement. -/
def Builder.step (b : Builder) : Statement → Option Builder
  | .blank => some b
  | .field path key v =>
    (Node.update false (Node.addValue path key v) b.current b.root).map fun root =>
      { b with root }
  | .table path key =>
    (Node.update false (Node.openTable key) path b.root).map fun root => ⟨root, path ++ [key]⟩
  | .arrayItem path key =>
    (Node.update false (Node.openArrayItem key) path b.root).map fun root =>
      ⟨root, path ++ [key]⟩

/-- The table that a document writes. -/
def parse? (text : String) : Option Toml := do
  let statements ← parseAll? document text.toList
  let built ← statements.foldlM Builder.step ⟨Node.emptyTable, []⟩
  return built.root.finish

end SwiftStyle.Toml
