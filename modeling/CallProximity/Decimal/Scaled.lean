/-! Reading a written decimal as a double.

The digits are gathered into one 64-bit word, as many as fit. The word is rounded
to a double, and then multiplied or divided by a power of ten that is itself the
nearest double. A number within both exact ranges (a word below `2 ^ 53`, a power up
to `10 ^ 22`) is so rounded once, correctly; any other is off by at most the error
of these two steps. -/

namespace CallProximity

/-- A decimal as written: digits of the whole part, of the fraction, and an exponent
with its sign. -/
structure WrittenDecimal where
  negative : Bool
  whole : List Nat
  fraction : List Nat
  negativeExponent : Bool
  exponent : Nat

namespace WrittenDecimal

/-- The first number past a 64-bit word. -/
def wordBound : Nat := 18446744073709551616

/-- Extends a significand by digits as long as it fits in a word; gives the digits
left over. -/
def gather (significand : Nat) : List Nat → Nat × List Nat
  | [] => (significand, [])
  | digit :: rest =>
      if significand * 10 + digit < wordBound then gather (significand * 10 + digit) rest
      else (significand, digit :: rest)

/-- The largest power of ten below infinity. -/
def largestPower : Nat := 308

def power (exponent : Nat) : Float :=
  .ofScientific 1 false exponent

/-- Nothing when the product is no finite double. -/
def scaleUp? (value : Float) (exponent : Nat) : Option Float :=
  if exponent ≤ largestPower then
    let product := value * power exponent
    if product.isInf then none else some product
  else if value == 0 then some value
  else none

def scaleDown (value : Float) (exponent : Nat) : Float :=
  if exponent ≤ largestPower then value / power exponent
  else if value == 0 then value
  else scaleDown (value / power largestPower) (exponent - largestPower)
termination_by exponent
decreasing_by simp [largestPower] at *; omega

/-- Exponents past this one are not added up: they give zero or nothing. -/
def largestExponent : Nat := 2147483647

/-- Nothing when the number is too large for a double. -/
def toDouble? (decimal : WrittenDecimal) : Option Float :=
  let (wholePart, dropped) := gather 0 decimal.whole
  let (significand, ignored) := gather wholePart decimal.fraction
  let written : Int := if decimal.negativeExponent then -decimal.exponent else decimal.exponent
  let exponent : Int := written + dropped.length - (decimal.fraction.length - ignored.length)
  let value := (UInt64.ofNat significand).toFloat
  let magnitude? :=
    if largestExponent < decimal.exponent then
      if significand ≠ 0 ∧ !decimal.negativeExponent then none else some 0
    else if 0 ≤ exponent then scaleUp? value exponent.toNat
    else some (scaleDown value (-exponent).toNat)
  magnitude?.map fun magnitude => if decimal.negative then -magnitude else magnitude

end WrittenDecimal

end CallProximity
