import CallProximity.Binary
import CallProximity.Decimal.Basic

/-! The decimal with the fewest digits that reads back as a given binary value.

The reals that round to the value form an interval, ends included when the
significand is even. On the grid of decimals with one, two, and so on digits, the
two neighbours of the value are tested against it: the first grid with a hit wins,
and of two hits the nearer. Between two that are equally near a tie rule decides. All
arithmetic is exact, on numbers scaled to integers. -/

namespace CallProximity

/-- Which of two neighbouring decimals is taken when the value lies halfway. -/
inductive TieRule where
  /-- The one further from zero. -/
  | away
  /-- The one whose last digit is even. -/
  | even

/-- The choice between `below` and its successor. -/
def TieRule.choose : TieRule → Nat → Nat
  | .away, below => below + 1
  | .even, below => if below % 2 = 0 then below else below + 1

namespace BinaryFormat

/-- The value `significand * 2 ^ exponent * 10 ^ places`, an integer when `places` is
at least `-exponent`. -/
def scaled (significand : Nat) (exponent : Int) (places : Nat) : Nat :=
  if 0 ≤ exponent then significand * powerOfTwo exponent.toNat * Decimal.powerOfTen places
  else significand * Decimal.powerOfTen places / powerOfTwo (-exponent).toNat

/-- The scaled interval of numbers that round to a value. -/
structure RoundingInterval where
  low : Nat
  high : Nat
  closed : Bool

def RoundingInterval.contains (interval : RoundingInterval) (value : Nat) : Bool :=
  if interval.closed then interval.low ≤ value && value ≤ interval.high
  else interval.low < value && value < interval.high

/-- Below a power of two the neighbours lie twice as close. -/
def roundingInterval (format : BinaryFormat) (significand : Nat) (exponent : Int)
    (places : Nat) : RoundingInterval :=
  let isLowest := significand = powerOfTwo format.fractionBits ∧ format.leastExponent < exponent
  let gap := if isLowest then 1 else 2
  { low := scaled (4 * significand - gap) (exponent - 2) places
    high := scaled (4 * significand + 2) (exponent - 2) places
    closed := significand % 2 == 0 }

/-- Of a number between two neighbours, `offset` past the lower and `step` apart, the
nearer neighbour. -/
def nearer (tie : TieRule) (below offset step : Nat) : Nat :=
  if 2 * offset < step then below
  else if 2 * offset = step then tie.choose below
  else below + 1

/-- The neighbour of `value` on the grid of multiples of `step` that lies in the
interval, as a multiple of `step`. -/
def nearestOnGrid? (tie : TieRule) (interval : RoundingInterval) (value step : Nat) : Option Nat :=
  let below := value / step
  let above := below + 1
  match interval.contains (below * step), interval.contains (above * step) with
  | true, true => some (nearer tie below (value % step) step)
  | true, false => some below
  | false, true => some above
  | false, false => none

/-- The shortest decimal of the value `significand * 2 ^ exponent`. -/
def shortest (format : BinaryFormat) (tie : TieRule) (significand : Nat) (exponent : Int) :
    Decimal :=
  let places := (2 - exponent).toNat
  let value := scaled significand exponent places
  let interval := format.roundingInterval significand exponent places
  let width := Decimal.digitCount value
  let hit := (List.range width).findSome? fun index =>
    let dropped := width - (index + 1)
    (nearestOnGrid? tie interval value (Decimal.powerOfTen dropped)).map fun digits =>
      (⟨digits, dropped - places⟩ : Decimal)
  (hit.getD ⟨value, -places⟩).trimmed

end BinaryFormat

end CallProximity
