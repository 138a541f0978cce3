import SwiftStyle.Toml

/-!
The scalars of TOML that are written without quotes: truth values, integers, floats, dates and
times. Each is read from the whole word that writes it.
-/

namespace SwiftStyle.Toml

/-- The value of a digit in a base of at most sixteen. -/
def digit? (base : Nat) (c : Char) : Option Nat :=
  let n :=
    if c.isDigit then c.toNat - '0'.toNat
    else if 'a' ≤ c && c ≤ 'f' then c.toNat - 'a'.toNat + 10
    else if 'A' ≤ c && c ≤ 'F' then c.toNat - 'A'.toNat + 10
    else base
  if n < base then some n else none

/-- The number that digits write after some others; an underscore stands between two digits. -/
def digitsFrom? (base value : Nat) : List Char → Option Nat
  | [] => some value
  | '_' :: c :: cs => (digit? base c).bind fun d => digitsFrom? base (base * value + d) cs
  | c :: cs => (digit? base c).bind fun d => digitsFrom? base (base * value + d) cs

/-- The number that digits write; at least one, and a digit first. -/
def digits? (base : Nat) : List Char → Option Nat
  | [] => none
  | c :: cs => (digit? base c).bind fun d => digitsFrom? base d cs

/-- A decimal integer without sign and without leading zeros. -/
def whole? (word : List Char) : Option Nat :=
  match word with
  | '0' :: _ :: _ => none
  | _ => digits? 10 word

/-- The sign of a word and what follows it. -/
def splitSign : List Char → Bool × List Char
  | '-' :: word => (true, word)
  | '+' :: word => (false, word)
  | word => (false, word)

/-- The first number that does not fit into 63 bits. -/
def integerLimit : Nat := Nat.pow 2 63

/-- An integer, if it fits into 64 bits with a sign. -/
def checked (negative : Bool) (n : Nat) : Option Int :=
  if negative then
    if n ≤ integerLimit then some (-(n : Int)) else none
  else if n < integerLimit then some n
  else none

/-- The integer that a word writes. Other bases have a mark and no sign. -/
def integer? : List Char → Option Int
  | '0' :: 'x' :: word => (digits? 16 word).bind (checked false)
  | '0' :: 'o' :: word => (digits? 8 word).bind (checked false)
  | '0' :: 'b' :: word => (digits? 2 word).bind (checked false)
  | word =>
    let (negative, body) := splitSign word
    (whole? body).bind (checked negative)

/-- The exponent of a float, in digits after a sign. -/
def exponent? (word : List Char) : Option Int :=
  let (negative, body) := splitSign word
  (digits? 10 body).map fun n => if negative then -(n : Int) else n

/-- A float from its parts: the nearest number. A numeral above all numbers is refused; one below
all numbers stands for negative infinity. -/
def floatOf? (negative : Bool) (digits : Nat) (power : Int) : Option Binary64 :=
  match Binary64.ofDecimal negative digits power with
  | .infinite false => none
  | number => some number

/-- The float that a word writes: an integer part with a fraction, an exponent or both. -/
def float? (word : List Char) : Option Binary64 :=
  let (negative, body) := splitSign word
  if body = "inf".toList then some (.infinite negative)
  else if body = "nan".toList then some .nan
  else
    let isExponentMark (c : Char) : Bool := c = 'e' || c = 'E'
    let mantissa := body.takeWhile fun c => !isExponentMark c
    let exponent := body.dropWhile fun c => !isExponentMark c
    let wholePart := mantissa.takeWhile (· ≠ '.')
    let fraction := mantissa.dropWhile (· ≠ '.')
    if fraction.isEmpty && exponent.isEmpty then none
    else do
      let whole ← whole? wholePart
      let fractionDigits := (fraction.drop 1).filter (· ≠ '_')
      if !fraction.isEmpty then
        let _ ← digits? 10 (fraction.drop 1)
      let power ← if exponent.isEmpty then some 0 else exponent? (exponent.drop 1)
      let digits := fractionDigits.foldl (fun n c => 10 * n + (c.toNat - '0'.toNat)) whole
      floatOf? negative digits (power - (fractionDigits.length : Int))

/-- The number that exactly so many digits at the front write, and what follows them. -/
def fixedDigits? (count : Nat) (word : List Char) : Option (Nat × List Char) :=
  let front := word.take count
  if front.length = count && front.all Char.isDigit then
    some (front.foldl (fun n c => 10 * n + (c.toNat - '0'.toNat)) 0, word.drop count)
  else none

/-- A number in decimal with at least so many digits. -/
def padded (width n : Nat) : List Char :=
  let digits := Nat.toDigits 10 n
  List.replicate (width - digits.length) '0' ++ digits

/-- The number of days in a month of a year. -/
def daysIn (year month : Nat) : Nat :=
  if month = 2 then
    if year % 4 = 0 && (year % 100 ≠ 0 || year % 400 = 0) then 29 else 28
  else if month = 4 || month = 6 || month = 9 || month = 11 then 30
  else 31

/-- A date at the front of a word, in the form in which it is shown, and what follows it. -/
def date? (word : List Char) : Option (List Char × List Char) := do
  let (year, word) ← fixedDigits? 4 word
  let '-' :: word := word | none
  let (month, word) ← fixedDigits? 2 word
  let '-' :: word := word | none
  let (day, word) ← fixedDigits? 2 word
  if 1 ≤ month && month ≤ 12 && 1 ≤ day && day ≤ daysIn year month then
    some (padded 4 year ++ '-' :: padded 2 month ++ '-' :: padded 2 day, word)
  else none

/-- The fraction of a second as it is shown: at most nine places and no zeros at the end. -/
def secondFraction (digits : List Char) : List Char :=
  let places := ((digits.take 9).reverse.dropWhile (· = '0')).reverse
  if places.isEmpty then [] else '.' :: places

/-- Where a date or time is written: in a document as it is, or in a text that stands for one. -/
inductive Setting where
  | inDocument
  | inText
  deriving DecidableEq, Repr

/-- The hours that a time of day may have. A text may name the hour at the end of the day. -/
def Setting.hours : Setting → Nat
  | inDocument => 24
  | inText => 25

/-- Whether an offset from universal time is allowed. A text may have any of up to a day. -/
def Setting.allowsOffset : Setting → Nat → Nat → Bool
  | inDocument, hours, minutes => hours < 24 && minutes < 60
  | inText, hours, minutes => 60 * hours + minutes ≤ 24 * 60

/-- A time of day at the front of a word, in the form in which it is shown, and what follows. -/
def time? (setting : Setting) (word : List Char) : Option (List Char × List Char) := do
  let (hour, word) ← fixedDigits? 2 word
  let ':' :: word := word | none
  let (minute, word) ← fixedDigits? 2 word
  let ':' :: word := word | none
  let (second, word) ← fixedDigits? 2 word
  if setting.hours ≤ hour || 60 ≤ minute || 61 ≤ second then none
  let shown := padded 2 hour ++ ':' :: padded 2 minute ++ ':' :: padded 2 second
  match word with
  | '.' :: word =>
    let digits := word.takeWhile Char.isDigit
    if digits.isEmpty then none
    else some (shown ++ secondFraction digits, word.dropWhile Char.isDigit)
  | _ => some (shown, word)

/-- An offset from universal time as a whole word, in the form in which it is shown. -/
def zone? (setting : Setting) (word : List Char) : Option (List Char) :=
  match word with
  | [] => some []
  | ['Z'] | ['z'] => some ['Z']
  | sign :: word => do
    if sign ≠ '+' && sign ≠ '-' then none
    let (hours, word) ← fixedDigits? 2 word
    let ':' :: word := word | none
    let (minutes, word) ← fixedDigits? 2 word
    if !setting.allowsOffset hours minutes || !word.isEmpty then none
    let total := 60 * hours + minutes
    let sign := if sign = '-' && total ≠ 0 then '-' else '+'
    some (sign :: padded 2 (total / 60) ++ ':' :: padded 2 (total % 60))

/-- A time with an offset, as a whole word. -/
def zonedTime? (setting : Setting) (word : List Char) : Option (List Char) := do
  let (time, word) ← time? setting word
  let zone ← zone? setting word
  some (time ++ zone)

/-- The date, the time or both that a word writes. -/
def datetime? (setting : Setting) (word : List Char) : Option (List Char) :=
  match date? word with
  | some (date, []) => some date
  | some (date, mark :: word) =>
    if mark = 'T' || mark = 't' || mark = ' ' then
      (zonedTime? setting word).map fun time => date ++ 'T' :: time
    else none
  | none =>
    match time? setting word with
    | some (time, []) => some time
    | _ => none

/-- The scalar that a word writes. -/
def scalar? (word : List Char) : Option Toml :=
  if word = "true".toList then some (.boolean true)
  else if word = "false".toList then some (.boolean false)
  else
    match datetime? .inDocument word with
    | some shown => some (.datetime (String.ofList shown))
    | none =>
      match integer? word with
      | some n => some (.integer n)
      | none => (float? word).map .float

end SwiftStyle.Toml
