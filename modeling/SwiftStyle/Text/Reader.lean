/-!
Readers: functions that take something off the front of a text, or refuse it. A repeated reader
runs at most once for every character, so a repetition always ends.
-/

namespace SwiftStyle.Text

/-- A function that takes something off the front of a text and leaves the rest. -/
structure Reader (α : Type) where
  run : List Char → Option (α × List Char)

namespace Reader

variable {α β : Type}

instance : Monad Reader where
  pure a := ⟨fun cs => some (a, cs)⟩
  bind p f := ⟨fun cs => (p.run cs).bind fun (a, rest) => (f a).run rest⟩

/-- Refuses every text. -/
def fail : Reader α := ⟨fun _ => none⟩

/-- The first reader, or the second one if that refuses. -/
def orElse (p : Reader α) (q : Unit → Reader α) : Reader α :=
  ⟨fun cs => match p.run cs with
    | some result => some result
    | none => (q ()).run cs⟩

instance : OrElse (Reader α) := ⟨orElse⟩

/-- A value that may be missing; a missing one refuses. -/
def ofOption (a? : Option α) : Reader α := ⟨fun cs => a?.map fun a => (a, cs)⟩

/-- The next character, without taking it. -/
def peek? : Reader (Option Char) := ⟨fun cs => some (cs.head?, cs)⟩

/-- The rest of the text, without taking it. -/
def rest : Reader (List Char) := ⟨fun cs => some (cs, cs)⟩

/-- One character with some property. -/
def satisfy (p : Char → Bool) : Reader Char :=
  ⟨fun
    | c :: cs => if p c then some (c, cs) else none
    | [] => none⟩

/-- One given character. -/
def char (c : Char) : Reader Unit := do
  let _ ← satisfy (· = c)

/-- A given text. -/
def literal : List Char → Reader Unit
  | [] => pure ()
  | c :: cs => do
    char c
    literal cs

/-- The longest run of characters with some property. -/
def takeWhile (p : Char → Bool) : Reader (List Char) :=
  ⟨fun cs => some (cs.takeWhile p, cs.dropWhile p)⟩

/-- The longest run of characters with some property; at least one. -/
def takeWhile1 (p : Char → Bool) : Reader (List Char) := do
  match ← takeWhile p with
  | [] => fail
  | cs => pure cs

/-- Succeeds only at the end of the text. -/
def atEnd : Reader Unit := ⟨fun cs => if cs.isEmpty then some ((), cs) else none⟩

/-- What a reader takes, or nothing if it refuses. -/
def optional? (p : Reader α) : Reader (Option α) :=
  (do return some (← p)) <|> pure none

/-- Repeats a reader until it refuses, at most the given number of times. -/
def repeatAtMost (p : Reader α) : Nat → Reader (List α)
  | 0 => pure []
  | n + 1 => do
    match ← optional? p with
    | none => pure []
    | some a => return a :: (← repeatAtMost p n)

/-- Repeats a reader until it refuses. -/
def many (p : Reader α) : Reader (List α) := do
  repeatAtMost p (← rest).length

/-- Items with a separator before each but the first; at least one item. -/
def separated (separator : Reader β) (item : Reader α) : Reader (List α) := do
  let first ← item
  let others ← many do
    let _ ← separator
    item
  return first :: others

/-- The result of a reader that takes a whole text. -/
def parseAll? (p : Reader α) (text : List Char) : Option α :=
  match p.run text with
  | some (a, []) => some a
  | _ => none

end Reader

end SwiftStyle.Text
