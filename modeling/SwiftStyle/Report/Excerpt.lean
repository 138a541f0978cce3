import SwiftStyle.Report
import SwiftStyle.SourceFile
import SwiftStyle.Text.Paint
import SwiftStyle.Text.Width
import SwiftStyle.Text.Wrap

/-!
A violation drawn into an excerpt of its file: the line it points at with one line before and one
after, and a marker under what it points at.
-/

namespace SwiftStyle.Excerpt

/-- A run of bytes that is marked; one without length is a point. -/
structure Span where
  start : Nat
  length : Nat
  deriving DecidableEq, Repr

/-- The byte offset just after a span. -/
def Span.stop (span : Span) : Nat := span.start + span.length

/-- What a position marks: the point at its offset, or the content of its line. A line that does
not exist marks the start of the text. -/
def spanOf (text : String) : Position → Span
  | .offset bytes => ⟨bytes, 0⟩
  | .line number =>
    match Text.line? number text.toList with
    | some line => ⟨line.offset, Text.size line.content⟩
    | none => ⟨0, 0⟩

/-- The start and the stop of every line end in a text that begins at some offset. A newline, a
carriage return, and the two together each end a line. -/
def lineEnds (offset : Nat) : List Char → List (Nat × Nat)
  | [] => []
  | '\r' :: '\n' :: cs => (offset, offset + 2) :: lineEnds (offset + 2) cs
  | c :: cs =>
    if c = '\r' || c = '\n' then (offset, offset + 1) :: lineEnds (offset + 1) cs
    else lineEnds (offset + c.utf8Size) cs

/-- The part of a text around a span: how many lines it leaves out before, the bytes it covers, and
the line and the column at which the span starts. The column counts bytes. -/
structure Window where
  skipped : Nat
  start : Nat
  stop : Nat
  line : Nat
  column : Nat
  deriving DecidableEq, Repr

/-- The window of a span. It has one line before the line in which the span starts, and one after
the first line end that follows the span; a line end at the very start of the text follows none. -/
def windowOf (text : List Char) (span : Span) : Window :=
  let ends := lineEnds 0 text
  let before := (ends.map Prod.snd).filter (· ≤ span.start)
  let after := ends.filter fun (start, _) => max 1 span.stop ≤ start
  let lineStart := before.getLast?.getD 0
  let lineStop := (ends[before.length]?.map Prod.fst).getD (Text.size text)
  { skipped := before.length - 1
    start := before.dropLast.getLast?.getD 0
    stop := (after[1]?.map Prod.snd).getD (Text.size text)
    line := before.length + 1
    column := min span.start lineStop - lineStart + 1 }

/-- A line of an excerpt with its number and the bytes it takes, the end of the line included. -/
structure Row where
  number : Nat
  offset : Nat
  length : Nat
  content : List Char
  deriving DecidableEq, Repr

/-- The rows that the pieces of a window make. A carriage return at the end of the window shows,
and its row takes no number of its own. -/
def rowsFrom (number offset : Nat) : List (List Char) → List Row
  | [] => []
  | piece :: pieces =>
    let row : Row :=
      if piece.getLast? = some '\n' then ⟨number, offset, Text.size piece, Text.chomp piece⟩
      else if piece.getLast? = some '\r' then ⟨number - 1, offset, Text.size piece, piece⟩
      else ⟨number, offset, Text.size piece, piece⟩
    if piece.isEmpty then rowsFrom number offset pieces
    else row :: rowsFrom (number + 1) (offset + row.length) pieces

/-- The rows of a window. -/
def rows (text : List Char) (window : Window) : List Row :=
  rowsFrom (window.skipped + 1) window.start
    (Text.segments ((Text.slice? window.start window.stop text).getD []))

/-- The distance between the columns that tabs go to. -/
def tabWidth : Nat := 4

/-- The columns that each character takes from some column on. A tab goes to the next stop. The
characters of an escape sequence take none; it starts with an escape and ends with the letter m. -/
def columnsFrom (column : Nat) (escaped : Bool) : List Char → List Nat
  | [] => []
  | c :: cs =>
    let width :=
      if escaped then 0
      else if c = '\t' then tabWidth - column % tabWidth
      else if c = '\x1b' then 0
      else Text.charWidth .v15 c
    width :: columnsFrom (column + width) (if escaped then c != 'm' else c = '\x1b') cs

/-- A text with its tabs as spaces. -/
def expandTabs (cs : List Char) : List Char :=
  (cs.zip (columnsFrom 0 false cs)).flatMap fun (c, width) =>
    if c = '\t' then List.replicate width ' ' else [c]

/-- The characters at the start of a text that lie within its first bytes. A character that lies
there only in part counts if `partly` says so. -/
def charsWithin (bytes : Nat) (partly : Bool) : List Char → List Char
  | [] => []
  | c :: cs =>
    if if partly then 0 < bytes else c.utf8Size ≤ bytes then
      c :: charsWithin (bytes - c.utf8Size) partly cs
    else []

/-- The column of a byte offset in a row; inside a character that of its start or, with `partly`,
of its end. An offset past the content of the row is one column further. -/
def columnOf (row : Row) (offset : Nat) (partly : Bool) : Nat :=
  let bytes := offset - row.offset
  let columns := (columnsFrom 0 false (charsWithin bytes partly row.content)).foldl (· + ·) 0
  if Text.size row.content < bytes then columns + 1 else columns

/-- A character several times. -/
def repeated (n : Nat) (c : Char) : String := String.ofList (List.replicate n c)

/-- The display attributes of the marks in front of the title of a violation. -/
def titleAttributes : String := "31"

/-- The display attributes of the name of the file. -/
def fileAttributes : String := "36;1;4"

/-- The display attributes of markers and labels. -/
def markerAttributes : String := "35;1"

/-- The display attributes of line numbers. -/
def numberAttributes : String := "2"

/-- Whether a span is marked under a row. -/
def isIn (span : Span) (row : Row) : Bool :=
  row.offset ≤ span.start && span.start < row.offset + row.length

/-- The marker of a span under a row, and the column from which its label hangs. -/
def marker (span : Span) (row : Row) : String × Nat :=
  let start := columnOf row span.start false
  let stop := if span.length = 0 then start + 1 else max (columnOf row span.stop true) (start + 1)
  let middle := (start + stop) / 2
  (repeated start ' ' ++ repeated (middle - start) '─'
    ++ (if span.length = 0 then "▲" else "┬") ++ repeated (stop - middle - 1) '─', middle)

/-- The lines of a row: the row itself and, if the span is in it, its marker and its label. -/
def drawRow (colored : Bool) (width : Nat) (span : Span) (label : String) (row : Row) :
    List String :=
  let number := toString row.number
  let padded := repeated (width - number.length) ' ' ++ number
  let gutter := repeated (width + 2) ' ' ++ "· "
  let shown :=
    " " ++ Text.paint colored numberAttributes padded ++ " │ "
      ++ String.ofList (expandTabs row.content)
  if isIn span row then
    let (line, middle) := marker span row
    [shown,
      gutter ++ Text.paint colored markerAttributes line,
      gutter ++ repeated middle ' ' ++ Text.paint colored markerAttributes
        ("╰── " ++ Text.paint colored markerAttributes label)]
  else [shown]

/-- The columns of a title after the mark in front of each of its lines. -/
def titleWidth : Nat := 194

/-- The lines of the title of an excerpt: the rule and the reason of the violation, wrapped. -/
def title (colored : Bool) (v : Violation) : List String :=
  let line (mark : String) (text : List Char) : String :=
    "  " ++ Text.paint colored titleAttributes mark ++ " " ++ String.ofList text
  match Text.Wrap.wrap titleWidth s!"[{v.rule.id}] {v.reason}".toList with
  | [] => []
  | first :: rest => line "×" first :: rest.map (line "│")

/-- The lines that draw a violation into its file; none if it points past the end of the text. -/
def draw? (colored : Bool) (file : SourceFile) (v : Violation) : Option (List String) :=
  let text := file.text.toList
  let span := spanOf file.text v.location.position
  if Text.size text < span.start then none
  else
    let window := windowOf text span
    let shown := rows text window
    let width := (toString ((shown.getLast?.map Row.number).getD 0)).length
    let place := s!"{displayName file.path}:{window.line}:{window.column}"
    some <|
      title colored v
      ++ [repeated (width + 2) ' ' ++ "╭─[" ++ Text.paint colored fileAttributes place ++ "]"]
      ++ shown.flatMap (drawRow colored width span v.severity.name)
      ++ [repeated (width + 2) ' ' ++ "╰────"]

end SwiftStyle.Excerpt
