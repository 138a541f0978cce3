/-!
Escape sequences in a text for a terminal. A control sequence starts with an escape and an opening
bracket and ends with a letter or a sign; a command starts with an escape and a closing bracket and
ends with a bell or with an escape and a backslash. Any other sequence is an escape and one more
character.
-/

namespace SwiftStyle.Text.Escape

/-- Where in a sequence a place of a text is. In a command it counts whether an escape stands right
before. -/
inductive State where
  | outside
  | opened
  | inControl
  | inCommand (escaped : Bool)
  deriving DecidableEq, Repr

namespace State

/-- The state after one more character. -/
def step : State → Char → State
  | outside, c => if c = '\x1b' then opened else outside
  | opened, c => if c = '[' then inControl else if c = ']' then inCommand false else outside
  | inControl, c => if '@' ≤ c && c ≤ '~' then outside else inControl
  | inCommand escaped, c =>
    if c = '\x07' || (escaped && c = '\\') then outside else inCommand (c = '\x1b')

/-- Whether a character is part of no sequence. -/
def shows : State → Char → Bool
  | outside, c => c ≠ '\x1b'
  | _, _ => false

/-- The characters of a text from some state on, each with whether it is part of no sequence. -/
def marked (state : State) : List Char → List (Char × Bool)
  | [] => []
  | c :: cs => (c, state.shows c) :: marked (state.step c) cs

@[simp]
theorem map_fst_marked (state : State) (cs : List Char) :
    (state.marked cs).map Prod.fst = cs := by
  induction cs generalizing state with
  | nil => rfl
  | cons c cs ih => simp [marked, ih]

end State

/-- The characters of a text, each with whether it is part of no escape sequence. -/
def marked (cs : List Char) : List (Char × Bool) := State.outside.marked cs

/-- A text without its escape sequences. -/
def strip (cs : List Char) : List Char := ((marked cs).filter Prod.snd).map Prod.fst

@[simp]
theorem map_fst_marked (cs : List Char) : (marked cs).map Prod.fst = cs :=
  State.outside.map_fst_marked cs

end SwiftStyle.Text.Escape
