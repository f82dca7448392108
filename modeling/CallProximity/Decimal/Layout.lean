import CallProximity.Decimal.Shortest

/-! How a binary value is written in decimal: which of two equally short texts is
taken, which numbers take an exponent, and what marks a whole number. -/

namespace CallProximity

structure DecimalLayout where
  /-- Decides between two shortest decimals that lie equally near. -/
  tie : TieRule
  /-- Whether a number whose first digit stands for `10 ^ lead` is written without
  an exponent. -/
  positional : (lead : Int) → Bool
  /-- Written after the digits of a whole number. -/
  wholeEnding : String
  nan : String
  infinity : String

namespace DecimalLayout

/-- Shortest digits, halves away from zero, never an exponent, a whole number as an
integer. -/
def plain : DecimalLayout where
  tie := .away
  positional _ := true
  wholeEnding := ""
  nan := "NaN"
  infinity := "inf"

def zeros (count : Nat) : String :=
  "".pushn '0' count

def writePositional (layout : DecimalLayout) (decimal : Decimal) : String :=
  let digits := toString decimal.digits
  let point := digits.length + decimal.exponent
  if 0 ≤ decimal.exponent then
    digits ++ zeros decimal.exponent.toNat ++ layout.wholeEnding
  else if 0 < point then
    let whole := digits.toList.take point.toNat
    let fraction := digits.toList.drop point.toNat
    .ofList (whole ++ '.' :: fraction)
  else
    "0." ++ zeros (-point).toNat ++ digits

/-- One digit before the point, and the sign of the exponent always written. -/
def writeScientific (decimal : Decimal) (lead : Int) : String :=
  let digits := (toString decimal.digits).toList
  let fraction := digits.drop 1
  let mantissa := digits.take 1 ++ (if fraction.isEmpty then [] else '.' :: fraction)
  let mark := if lead < 0 then "e-" else "e+"
  .ofList mantissa ++ mark ++ toString lead.natAbs

def writeDecimal (layout : DecimalLayout) (decimal : Decimal) : String :=
  let lead := decimal.exponent + Decimal.digitCount decimal.digits - 1
  if layout.positional lead then layout.writePositional decimal
  else writeScientific decimal lead

def write (layout : DecimalLayout) (format : BinaryFormat) : BinaryValue → String
  | .nan => layout.nan
  | .infinite negative => (if negative then "-" else "") ++ layout.infinity
  | .finite negative significand exponent =>
      let magnitude : Decimal :=
        if significand = 0 then ⟨0, 0⟩ else format.shortest layout.tie significand exponent
      (if negative then "-" else "") ++ layout.writeDecimal magnitude

def writeSingle (layout : DecimalLayout) (value : Float32) : String :=
  layout.write .single (BinaryFormat.single.decode value.toBits.toNat)

def writeDouble (layout : DecimalLayout) (value : Float) : String :=
  layout.write .double (BinaryFormat.double.decode value.toBits.toNat)

end DecimalLayout

end CallProximity
