/-!
Binary floating point numbers of 64 bits as exact numbers: a sign, a mantissa of at most 53 bits
and a power of two. A decimal numeral stands for the number nearest to it.
-/

namespace SwiftStyle

/-- A floating point number. A finite one is the mantissa times two to the power of the exponent;
either the mantissa has all 53 bits or the exponent is the least one. -/
inductive Binary64 where
  | nan
  | infinite (negative : Bool)
  | finite (negative : Bool) (mantissa : Nat) (exponent : Int)
  deriving DecidableEq, Repr

namespace Binary64

/-- The least exponent. -/
def leastExponent : Int := -1074

/-- The greatest exponent of a mantissa with 53 bits. -/
def greatestExponent : Int := 971

/-- A power with an exponent that counts only if it is not negative. -/
def powNat (base : Nat) (exponent : Int) : Nat := Nat.pow base exponent.toNat

/-- The least mantissa of 53 bits. -/
def leastFull : Nat := Nat.pow 2 52

/-- The first number of 54 bits, which is too large for a mantissa. -/
def mantissaLimit : Nat := Nat.pow 2 53

/-- A quotient rounded to the nearest integer, a half to the even neighbour. -/
def roundHalfEven (numerator denominator : Nat) : Nat :=
  let quotient := numerator / denominator
  let twice := 2 * (numerator % denominator)
  if twice < denominator then quotient
  else if denominator < twice then quotient + 1
  else if quotient % 2 = 0 then quotient
  else quotient + 1

/-- The floor and the rounded value of a fraction divided by two to some power. -/
def scaled (numerator denominator : Nat) (power : Int) : Nat × Nat :=
  let n := numerator * powNat 2 (-power)
  let d := denominator * powNat 2 power
  (n / d, roundHalfEven n d)

/-- A number with a mantissa of at most 53 bits, or of one bit more by rounding up. -/
def normalize (negative : Bool) (mantissa : Nat) (exponent : Int) : Binary64 :=
  let (mantissa, exponent) :=
    if mantissa = mantissaLimit then (leastFull, exponent + 1) else (mantissa, exponent)
  if greatestExponent < exponent then infinite negative else finite negative mantissa exponent

/-- The number nearest to a positive fraction. -/
def ofFraction (negative : Bool) (numerator denominator : Nat) : Binary64 :=
  let bits : Int := (numerator.log2 : Int) - (denominator.log2 : Int)
  let power := max (bits - 53) leastExponent
  let (whole, rounded) := scaled numerator denominator power
  if whole < mantissaLimit then normalize negative rounded power
  else normalize negative (scaled numerator denominator (power + 1)).2 (power + 1)

/-- The number nearest to a decimal numeral: digits times ten to some power. Powers far out of
range are settled without computing them. -/
def ofDecimal (negative : Bool) (digits : Nat) (power : Int) : Binary64 :=
  if digits = 0 then finite negative 0 leastExponent
  else if 400 < power then infinite negative
  else if power + (Nat.toDigits 10 digits).length < -400 then finite negative 0 leastExponent
  else ofFraction negative (digits * powNat 10 power) (powNat 10 (-power))

end Binary64

end SwiftStyle
