import SwiftStyle.Text.Utf8

/-!
The lines of a text. A text is cut after every newline; a cut at the very end opens no further
line. The content of a line leaves out its newline and one carriage return before that.

`flatten_segments` says that cutting loses nothing.
-/

namespace SwiftStyle.Text

/-- A line: its number, from 1, the byte offset of its first character, and its content. -/
structure Line where
  number : Nat
  offset : Nat
  content : List Char
  deriving DecidableEq, Repr

/-- The byte offset just after the content of a line. -/
def Line.stop (line : Line) : Nat := line.offset + size line.content

/-- The text cut after every newline; the last piece is what follows the last newline. -/
def segments : List Char → List (List Char)
  | [] => [[]]
  | c :: cs =>
    match segments cs with
    | [] => [[c]]
    | piece :: pieces => if c = '\n' then [c] :: piece :: pieces else (c :: piece) :: pieces

theorem segments_ne_nil (cs : List Char) : segments cs ≠ [] := by
  cases cs with
  | nil => simp [segments]
  | cons c cs =>
    simp only [segments]
    split
    · simp
    · split <;> simp

@[simp]
theorem flatten_segments (cs : List Char) : (segments cs).flatten = cs := by
  induction cs with
  | nil => simp [segments]
  | cons c cs ih =>
    simp only [segments]
    split
    · next h => exact absurd h (segments_ne_nil cs)
    · next piece pieces h =>
      rw [h] at ih
      split <;> simpa using ih

/-- A piece without the newline at its end and one carriage return before that. -/
def chomp (piece : List Char) : List Char :=
  let line := if piece.getLast? = some '\n' then piece.dropLast else piece
  if line.getLast? = some '\r' then line.dropLast else line

/-- The byte offsets at which the pieces of a text start, given the offset of the first one. -/
def offsetsFrom : Nat → List (List Char) → List Nat
  | _, [] => []
  | offset, piece :: pieces => offset :: offsetsFrom (offset + size piece) pieces

/-- The byte offset after each newline, and 0 before them. -/
def lineStarts (cs : List Char) : List Nat := offsetsFrom 0 (segments cs)

/-- Numbers the pieces of a text, given the number and the offset of the first one. An empty
piece at the end is the place after a final newline and no line. -/
def linesFrom (number offset : Nat) : List (List Char) → List Line
  | [] => []
  | piece :: pieces =>
    if piece.isEmpty && pieces.isEmpty && 1 < number then []
    else ⟨number, offset, chomp piece⟩ :: linesFrom (number + 1) (offset + size piece) pieces

/-- The lines of a text, from the first to the last. There is always one. -/
def lines (cs : List Char) : List Line := linesFrom 1 0 (segments cs)

/-- The number of lines of a text. -/
def lineCount (cs : List Char) : Nat := (lines cs).length

/-- The line of a number, counting from 1. -/
def line? (number : Nat) (cs : List Char) : Option Line :=
  if number = 0 then none else (lines cs)[number - 1]?

end SwiftStyle.Text
