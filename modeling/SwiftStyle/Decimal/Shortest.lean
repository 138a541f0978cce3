import SwiftStyle.Decimal.Binary64

/-!
The shortest decimal text of a floating point number: the fewest digits that still stand for it,
and of those the nearest. The interval of all decimals that stand for a number reaches half way to
its neighbours; its ends belong to it if the mantissa is even.
-/

namespace SwiftStyle.Binary64

/-- The interval of decimals that stand for a number, in units of a power of two: the lower end,
the number, the upper end, and whether the ends belong to it. -/
structure Neighbourhood where
  low : Nat
  value : Nat
  high : Nat
  closed : Bool
  power : Int
  deriving DecidableEq, Repr

/-- The neighbourhood of a finite number. The lower neighbour of a power of two is nearer than
the upper one. -/
def neighbourhood (mantissa : Nat) (exponent : Int) : Neighbourhood where
  low := if mantissa = leastFull && leastExponent < exponent then 4 * mantissa - 1
    else 4 * mantissa - 2
  value := 4 * mantissa
  high := 4 * mantissa + 2
  closed := mantissa % 2 = 0
  power := exponent - 2

namespace Neighbourhood

/-- A multiple of the unit on a common scale with decimals of a given power of ten. -/
def scaleUnits (n : Neighbourhood) (ten : Int) (units : Nat) : Nat :=
  units * powNat 2 n.power * powNat 10 (-ten)

/-- A decimal with a given power of ten on the same common scale. -/
def scaleDecimal (n : Neighbourhood) (ten : Int) (digits : Nat) : Nat :=
  digits * powNat 10 ten * powNat 2 (-n.power)

/-- Whether a decimal stands for the number. -/
def contains (n : Neighbourhood) (ten : Int) (digits : Nat) : Bool :=
  let d := n.scaleDecimal ten digits
  let low := n.scaleUnits ten n.low
  let high := n.scaleUnits ten n.high
  if n.closed then low ≤ d && d ≤ high else low < d && d < high

/-- The greatest decimal with a given power of ten that does not exceed the number. -/
def floor (n : Neighbourhood) (ten : Int) : Nat :=
  n.scaleUnits ten n.value / n.scaleDecimal ten 1

/-- The decimal with a given power of ten that stands for the number, if there is one: of the two
next to the number the nearer, and the greater one if both are equally near. -/
def candidate? (n : Neighbourhood) (ten : Int) : Option Nat :=
  let below := n.floor ten
  let above := below + 1
  match n.contains ten below, n.contains ten above with
  | true, true =>
    let value := n.scaleUnits ten n.value
    let toBelow := value - n.scaleDecimal ten below
    let toAbove := n.scaleDecimal ten above - value
    some (if toBelow < toAbove then below else above)
  | true, false => some below
  | false, true => some above
  | false, false => none

/-- The power of ten of the first digit of a number, given a guess that is too high by at most the
number of steps. -/
def leading (n : Neighbourhood) : Nat → Int → Int
  | 0, ten => ten
  | steps + 1, ten => if n.floor ten = 0 then leading n steps (ten - 1) else ten

/-- Tries the grids of ever smaller powers of ten and takes the first that has a decimal. -/
def search (n : Neighbourhood) : Nat → Int → Nat × Int
  | 0, ten => (n.floor ten, ten)
  | steps + 1, ten =>
    match n.candidate? ten with
    | some digits => (digits, ten)
    | none => search n steps (ten - 1)

/-- The shortest decimal that stands for a number, as digits and a power of ten. Seventeen digits
are always enough. A single digit that is rounded up from nine is a one of the next power. -/
def shortest (n : Neighbourhood) : Nat × Int :=
  let guess : Int := ((n.value.log2 : Int) + n.power + 1) * 30103 / 100000 + 1
  let (digits, ten) := search n 17 (leading n 4 guess)
  if digits = 10 then (1, ten + 1) else (digits, ten)

end Neighbourhood

/-- The digits of a number with the point after some of them, zeros filled in, and at least one
digit on each side of the point. -/
def positional (digits : List Char) (power : Int) : List Char :=
  if 0 ≤ power then digits ++ List.replicate power.toNat '0' ++ ['.', '0']
  else
    let places := (-power).toNat
    if places < digits.length then
      digits.take (digits.length - places) ++ '.' :: digits.drop (digits.length - places)
    else '0' :: '.' :: List.replicate (places - digits.length) '0' ++ digits

/-- The digits of a number with the point after the first one, and the power of ten it takes. -/
def scientific (digits : List Char) (power : Int) : List Char :=
  let exponent := (toString (power + (digits.length : Int) - 1)).toList
  match digits with
  | [] => []
  | [digit] => digit :: 'e' :: exponent
  | digit :: more => digit :: '.' :: more ++ 'e' :: exponent

/-- A decimal as text. Numbers from a ten-thousandth up to ten to the sixteenth are written in
full, others with an exponent. -/
def decimalText (digits : Nat) (power : Int) : List Char :=
  let text := Nat.toDigits 10 digits
  let exponent := power + (text.length : Int) - 1
  if -4 ≤ exponent && exponent < 16 then positional text power else scientific text power

/-- The text of a floating point number. -/
def text : Binary64 → String
  | nan => "NaN"
  | infinite true => "-inf"
  | infinite false => "inf"
  | finite negative mantissa exponent =>
    let body :=
      if mantissa = 0 then ['0', '.', '0']
      else
        let (digits, power) := (neighbourhood mantissa exponent).shortest
        decimalText digits power
    String.ofList (if negative then '-' :: body else body)

end SwiftStyle.Binary64
