import SwiftStyle.Text.Cluster
import SwiftStyle.Text.Lines

/-!
Where something stands in a file: a position given by offset or by line, and the line, column and
offset it resolves to. Columns count clusters.
-/

namespace SwiftStyle

/-- A position in a text: a byte offset, or a whole line by its number. -/
inductive Position where
  | offset (bytes : Nat)
  | line (number : Nat)
  deriving DecidableEq, Repr

/-- A position in a file that may have no path. -/
structure Location where
  file : Option String
  position : Position
  deriving DecidableEq, Repr

/-- A position in full: line and column from 1, and the byte offset. -/
structure Place where
  line : Nat
  column : Nat
  offset : Nat
  deriving DecidableEq, Repr

/-- The name under which a file is shown: its path, or a stand-in if it has none. -/
def displayName (path : Option String) : String := path.getD "<input>"

namespace Text

/-- The line and the column of a byte offset. An offset past the end counts as the end. Inside a
character the column counts the bytes of the line instead of clusters. -/
def locate (offset : Nat) (cs : List Char) : Nat × Nat :=
  let offset := min offset (size cs)
  let starts := lineStarts cs
  let line := starts.countP (· ≤ offset)
  let start := starts.getD (line - 1) 0
  match slice? start offset cs with
  | some before => (line, Cluster.count before + 1)
  | none => (line, offset - start + 1)

end Text

namespace Position

/-- The place of a position in a text. A line stands for its first column; a line that does not
exist stands for the end. An offset is kept as it is, even past the end. -/
def resolve (text : String) : Position → Place
  | .offset bytes =>
    let found := Text.locate bytes text.toList
    ⟨found.1, found.2, bytes⟩
  | .line number =>
    ⟨number, 1, ((Text.line? number text.toList).map Text.Line.offset).getD text.utf8ByteSize⟩

/-- A position as it is shown after a file name. -/
def display : Position → String
  | .offset bytes => s!"@{bytes}"
  | .line number => s!":{number}"

end Position

/-- A location as it is shown in messages. -/
def Location.display (location : Location) : String :=
  displayName location.file ++ location.position.display

end SwiftStyle
