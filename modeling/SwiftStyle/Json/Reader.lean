import SwiftStyle.Json

/-!
Reading JSON, one character at a time. The machine holds the containers that are still open and
what it expects next; it stops at the first character that no JSON text has there.
-/

namespace SwiftStyle.Json

/-- A container that is still open, with what was read of it, the latest first. -/
inductive Frame where
  | items (read : List Json)
  | fields (read : List (String × Json))
  | value (read : List (String × Json)) (key : String)

/-- What may come next. -/
inductive Mode where
  | value
  | firstItem
  | key
  | firstKey
  | colon (key : String)
  | next
  | finished (value : Json)
  | text (isKey : Bool) (read : List Char)
  | escape (isKey : Bool) (read : List Char)
  | hex (isKey : Bool) (read : List Char) (high : Option Nat) (left code : Nat)
  | pairSlash (isKey : Bool) (read : List Char) (high : Nat)
  | pairMark (isKey : Bool) (read : List Char) (high : Nat)
  | word (read : List Char)

/-- The machine between two characters. -/
structure Machine where
  mode : Mode
  stack : List Frame

/-- Whether a character may stand between tokens. -/
def isSpace (c : Char) : Bool := c = ' ' || c = '\t' || c = '\n' || c = '\r'

/-- Skips the digits at the front; there must be one. -/
def dropDigits? (cs : List Char) : Option (List Char) :=
  match cs with
  | c :: rest => if c.isDigit then some (rest.dropWhile Char.isDigit) else none
  | [] => none

/-- Skips the integer part of a number: a zero, or digits that start with another one. -/
def dropWhole? : List Char → Option (List Char)
  | '0' :: rest => some rest
  | cs => dropDigits? cs

/-- Skips a fraction, if there is one. -/
def dropFraction? : List Char → Option (List Char)
  | '.' :: rest => dropDigits? rest
  | cs => some cs

/-- Skips an exponent, if there is one. -/
def dropExponent? : List Char → Option (List Char)
  | c :: rest =>
    if c = 'e' || c = 'E' then
      match rest with
      | '+' :: digits | '-' :: digits => dropDigits? digits
      | digits => dropDigits? digits
    else some (c :: rest)
  | [] => some []

/-- The number that a word writes. -/
def number? (word : List Char) : Option Json :=
  let negative := word.head? = some '-'
  let body := if negative then word.drop 1 else word
  match dropWhole? body with
  | none => none
  | some [] =>
    let n := body.foldl (fun n c => 10 * n + (c.toNat - '0'.toNat)) 0
    if negative && n = 0 then some (.decimal (String.ofList word))
    else some (.integer (if negative then -(n : Int) else n))
  | some rest =>
    match (dropFraction? rest).bind dropExponent? with
    | some [] => some (.decimal (String.ofList word))
    | _ => none

/-- The value that a word writes. -/
def ofWord? (word : List Char) : Option Json :=
  if word = "null".toList then some .null
  else if word = "true".toList then some (.bool true)
  else if word = "false".toList then some (.bool false)
  else number? word

namespace Machine

/-- The machine at the start of a text. -/
def start : Machine := ⟨.value, []⟩

/-- The machine after a whole value. -/
def complete (value : Json) : List Frame → Machine
  | [] => ⟨.finished value, []⟩
  | .items read :: stack => ⟨.next, .items (value :: read) :: stack⟩
  | .value read key :: stack => ⟨.next, .fields ((key, value) :: read) :: stack⟩
  | .fields read :: stack => ⟨.next, .fields read :: stack⟩

/-- The machine after a whole string. -/
def completeText (isKey : Bool) (read : List Char) (stack : List Frame) : Machine :=
  let text := String.ofList read.reverse
  if isKey then ⟨.colon text, stack⟩ else complete (.string text) stack

/-- A character where a value is expected. -/
def startValue (stack : List Frame) (c : Char) : Option Machine :=
  if c = '"' then some ⟨.text false [], stack⟩
  else if c = '[' then some ⟨.firstItem, .items [] :: stack⟩
  else if c = '\x7b' then some ⟨.firstKey, .fields [] :: stack⟩
  else if c = '-' || c.isAlphanum then some ⟨.word [c], stack⟩
  else none

/-- A character that closes the innermost container. -/
def close (c : Char) : List Frame → Option Machine
  | .items read :: stack =>
    if c = ']' then some (complete (.array read.reverse) stack) else none
  | .fields read :: stack =>
    if c = '\x7d' then some (complete (.object read.reverse) stack) else none
  | _ => none

/-- A character after a whole value inside a container. -/
def afterValue (stack : List Frame) (c : Char) : Option Machine :=
  if c = ',' then
    match stack with
    | .items _ :: _ => some ⟨.value, stack⟩
    | .fields _ :: _ => some ⟨.key, stack⟩
    | _ => none
  else close c stack

/-- The character that a short escape stands for. -/
def shortEscape? : Char → Option Char
  | '"' => some '"'
  | '\\' => some '\\'
  | '/' => some '/'
  | 'b' => some '\x08'
  | 'f' => some '\x0c'
  | 'n' => some '\n'
  | 'r' => some '\r'
  | 't' => some '\t'
  | _ => none

/-- The value of a hexadecimal digit. -/
def hexValue? (c : Char) : Option Nat :=
  if c.isDigit then some (c.toNat - '0'.toNat)
  else if 'a' ≤ c && c ≤ 'f' then some (c.toNat - 'a'.toNat + 10)
  else if 'A' ≤ c && c ≤ 'F' then some (c.toNat - 'A'.toNat + 10)
  else none

/-- The machine after four digits of an escape. The first half of a surrogate pair waits for the
second; a half without the other is refused. -/
def afterHex (isKey : Bool) (read : List Char) (high : Option Nat) (code : Nat)
    (stack : List Frame) : Option Machine :=
  match high with
  | some h =>
    if 0xdc00 ≤ code && code < 0xe000 then
      let c := Char.ofNat (0x10000 + (h - 0xd800) * 0x400 + (code - 0xdc00))
      some ⟨.text isKey (c :: read), stack⟩
    else none
  | none =>
    if 0xd800 ≤ code && code < 0xdc00 then some ⟨.pairSlash isKey read code, stack⟩
    else if 0xdc00 ≤ code && code < 0xe000 then none
    else some ⟨.text isKey (Char.ofNat code :: read), stack⟩

/-- One character more, outside of words. -/
def stepPlain (m : Machine) (c : Char) : Option Machine :=
  match m.mode with
  | .value => if isSpace c then some m else startValue m.stack c
  | .firstItem =>
    if isSpace c then some m
    else if c = ']' then close c m.stack
    else startValue m.stack c
  | .key =>
    if isSpace c then some m
    else if c = '"' then some ⟨.text true [], m.stack⟩
    else none
  | .firstKey =>
    if isSpace c then some m
    else if c = '\x7d' then close c m.stack
    else if c = '"' then some ⟨.text true [], m.stack⟩
    else none
  | .colon key =>
    if isSpace c then some m
    else if c = ':' then
      match m.stack with
      | .fields read :: stack => some ⟨.value, .value read key :: stack⟩
      | _ => none
    else none
  | .next => if isSpace c then some m else afterValue m.stack c
  | .finished _ => if isSpace c then some m else none
  | .text isKey read =>
    if c = '"' then some (completeText isKey read m.stack)
    else if c = '\\' then some ⟨.escape isKey read, m.stack⟩
    else if c.toNat < 0x20 then none
    else some ⟨.text isKey (c :: read), m.stack⟩
  | .escape isKey read =>
    if c = 'u' then some ⟨.hex isKey read none 4 0, m.stack⟩
    else (shortEscape? c).map fun d => ⟨.text isKey (d :: read), m.stack⟩
  | .hex isKey read high left code =>
    (hexValue? c).bind fun digit =>
      if left ≤ 1 then afterHex isKey read high (16 * code + digit) m.stack
      else some ⟨.hex isKey read high (left - 1) (16 * code + digit), m.stack⟩
  | .pairSlash isKey read high =>
    if c = '\\' then some ⟨.pairMark isKey read high, m.stack⟩ else none
  | .pairMark isKey read high =>
    if c = 'u' then some ⟨.hex isKey read (some high) 4 0, m.stack⟩ else none
  | .word read => some ⟨.word (c :: read), m.stack⟩

/-- Whether a character can be part of a number or a name. -/
def isWordChar (c : Char) : Bool := c.isAlphanum || c = '-' || c = '+' || c = '.'

/-- One character more. A word ends before the first character that cannot be part of it. -/
def step (m : Machine) (c : Char) : Option Machine :=
  match m.mode with
  | .word read =>
    if isWordChar c then some ⟨.word (c :: read), m.stack⟩
    else (ofWord? read.reverse).bind fun value => (complete value m.stack).stepPlain c
  | _ => m.stepPlain c

/-- All characters of a text, as long as none is refused. -/
def run (m : Machine) : List Char → Option Machine
  | [] => some m
  | c :: cs =>
    match m.step c with
    | some next => next.run cs
    | none => none

/-- The value that was read, if it is complete. -/
def result? (m : Machine) : Option Json :=
  match m.mode, m.stack with
  | .finished value, _ => some value
  | .word read, [] => ofWord? read.reverse
  | _, _ => none

end Machine

/-- The value that a text writes. -/
def parse? (text : String) : Option Json := (Machine.start.run text.toList).bind Machine.result?

end SwiftStyle.Json
