/-! Decimal numbers with a sign apart: `digits * 10 ^ exponent`. -/

namespace CallProximity

structure Decimal where
  digits : Nat
  exponent : Int
deriving DecidableEq

namespace Decimal

def powerOfTen (exponent : Nat) : Nat :=
  Nat.pow 10 exponent

def digitCount (value : Nat) : Nat :=
  (Nat.toDigits 10 value).length

def dropZeros : Nat → Decimal → Decimal
  | 0, decimal => decimal
  | steps + 1, decimal =>
      if decimal.digits ≠ 0 ∧ decimal.digits % 10 = 0 then
        dropZeros steps ⟨decimal.digits / 10, decimal.exponent + 1⟩
      else decimal

/-- The same number with no zero at the end of its digits. -/
def trimmed (decimal : Decimal) : Decimal :=
  dropZeros (digitCount decimal.digits) decimal

end Decimal

end CallProximity
