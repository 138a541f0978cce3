import SwiftStyle.Finding
import SwiftStyle.SourceFile

/-!
Edits that rules request, and how they are applied together. Edits are considered from the end of
the text to its start, those with equal starts in the order of submission. One that does not fit
the text or conflicts with an edit accepted before it is dropped. The accepted ones are applied
from back to front, so that the offsets of those still to come stay valid.
-/

namespace SwiftStyle

/-- A request of a rule to put a text in place of the bytes between two offsets. -/
structure Edit where
  start : Nat
  stop : Nat
  replacement : String
  rule : Reporter
  deriving DecidableEq, Repr

namespace Edit

/-- Whether an edit replaces nothing and only inserts. -/
def isInsertion (e : Edit) : Bool := decide (e.stop ≤ e.start)

/-- Whether two edits fight over the same text: two insertions at one place, an insertion strictly
inside what the other replaces, or replacements that share a byte. -/
def conflicts (a b : Edit) : Bool :=
  match a.isInsertion, b.isInsertion with
  | true, true => a.start = b.start
  | true, false => b.start < a.start && a.start < b.stop
  | false, true => a.start < b.start && b.start < a.stop
  | false, false => a.start < b.stop && b.start < a.stop

/-- Whether the bytes of an edit are in order and fall on characters of the text. -/
def fits (text : List Char) (e : Edit) : Bool :=
  e.start ≤ e.stop && Text.isBoundary e.start text && Text.isBoundary e.stop text

/-- The order in which edits are considered: later starts first, submission order within. -/
def byPriority (edits : List Edit) : List Edit := edits.mergeSort fun a b => b.start ≤ a.start

/-- Goes through edits in order of priority and keeps those that fit and conflict with none kept
so far; `kept` has the latest first. -/
def acceptFrom (text : List Char) (kept : List Edit) : List Edit → List Edit
  | [] => kept.reverse
  | e :: rest =>
    if e.fits text && !kept.any (conflicts · e) then acceptFrom text (e :: kept) rest
    else acceptFrom text kept rest

/-- The edits that are applied, in order of priority. -/
def accepted (text : List Char) (edits : List Edit) : List Edit :=
  acceptFrom text [] (byPriority edits)

/-- The order in which accepted edits are applied: from back to front, and at one start a
replacement before an insertion. -/
def backToFront (edits : List Edit) : List Edit :=
  edits.mergeSort fun a b => b.start < a.start || (a.start == b.start && b.stop ≤ a.stop)

/-- The text after one edit. -/
def applyTo (text : List Char) (e : Edit) : List Char :=
  (Text.splice? e.start e.stop e.replacement.toList text).getD text

/-- The text after several edits, the first one first. -/
def applyAll (text : List Char) (edits : List Edit) : List Char := edits.foldl applyTo text

/-- The correction an edit amounts to, located in the text before. -/
def correction (file : SourceFile) (e : Edit) : Correction :=
  ⟨e.rule, file.located (.offset e.start)⟩

end Edit

/-- The file after the edits that can be applied together, and one correction for each of them,
ascending by where it starts in the text before. -/
def SourceFile.applyEdits (file : SourceFile) (edits : List Edit) :
    SourceFile × List Correction :=
  let order := Edit.backToFront (Edit.accepted file.text.toList edits)
  if order.isEmpty then (file, [])
  else
    (file.write (String.ofList (Edit.applyAll file.text.toList order)),
      order.reverse.map (Edit.correction file))

end SwiftStyle
