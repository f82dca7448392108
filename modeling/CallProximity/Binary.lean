/-! Binary floating formats, each finite value an integer times a power of two.
Encoding rounds to the nearest value of the format, a tie going to the even
significand, so a value that the format holds is encoded exactly. Widening a
single to a double therefore loses nothing, and narrowing it back undoes it. -/

namespace CallProximity

def powerOfTwo (exponent : Nat) : Nat :=
  Nat.pow 2 exponent

/-- A sign bit, then `exponentBits` of biased exponent, then `fractionBits`. -/
structure BinaryFormat where
  fractionBits : Nat
  exponentBits : Nat

inductive BinaryValue where
  | nan
  | infinite (negative : Bool)
  | finite (negative : Bool) (significand : Nat) (exponent : Int)

namespace BinaryFormat

def single : BinaryFormat := ⟨23, 8⟩

def double : BinaryFormat := ⟨52, 11⟩

/-- The power of two that the last bit of the smallest values stands for. -/
def leastExponent (format : BinaryFormat) : Int :=
  2 - powerOfTwo (format.exponentBits - 1) - format.fractionBits

def signWeight (format : BinaryFormat) : Nat :=
  powerOfTwo (format.fractionBits + format.exponentBits)

def infinityBits (format : BinaryFormat) : Nat :=
  (powerOfTwo format.exponentBits - 1) * powerOfTwo format.fractionBits

def decode (format : BinaryFormat) (bits : Nat) : BinaryValue :=
  let negative := bits / format.signWeight % 2 == 1
  let magnitude := bits % format.signWeight
  let biased := magnitude / powerOfTwo format.fractionBits
  let fraction := magnitude % powerOfTwo format.fractionBits
  if biased = powerOfTwo format.exponentBits - 1 then
    if fraction = 0 then .infinite negative else .nan
  else if biased = 0 then
    .finite negative fraction format.leastExponent
  else
    .finite negative (powerOfTwo format.fractionBits + fraction) (format.leastExponent + biased - 1)

/-- The quotient by `2 ^ shift`, rounded to nearest, a tie to even. -/
def roundShift (value shift : Nat) : Nat :=
  let unit := powerOfTwo shift
  let quotient := value / unit
  let rest := value % unit
  if unit < 2 * rest ∨ (unit = 2 * rest ∧ quotient % 2 = 1) then quotient + 1 else quotient

/-- Bits of the magnitude. A carry out of the significand lands in the exponent,
and a magnitude past the largest finite one becomes infinity. -/
def magnitudeBits (format : BinaryFormat) (significand : Nat) (exponent : Int) : Nat :=
  if significand = 0 then 0
  else
    let last := max (exponent + significand.log2 - format.fractionBits) format.leastExponent
    let kept :=
      if last ≤ exponent then significand * powerOfTwo (exponent - last).toNat
      else roundShift significand (last - exponent).toNat
    min format.infinityBits ((last - format.leastExponent).toNat * powerOfTwo format.fractionBits + kept)

def encode (format : BinaryFormat) : BinaryValue → Nat
  | .nan => format.infinityBits + powerOfTwo (format.fractionBits - 1)
  | .infinite negative => negative.toNat * format.signWeight + format.infinityBits
  | .finite negative significand exponent =>
      negative.toNat * format.signWeight + format.magnitudeBits significand exponent

end BinaryFormat

/-- The double with the same value as a single. -/
def widen (value : Float32) : Float :=
  .ofBits (.ofNat (BinaryFormat.double.encode (BinaryFormat.single.decode value.toBits.toNat)))

/-- The single nearest to a double. -/
def narrow (value : Float) : Float32 :=
  .ofBits (.ofNat (BinaryFormat.single.encode (BinaryFormat.double.decode value.toBits.toNat)))

/-- The double nearest to an integer. -/
def doubleOfInt (value : Int) : Float :=
  .ofBits (.ofNat (BinaryFormat.double.encode (.finite (value < 0) value.natAbs 0)))

/-- The single nearest to an integer, rounded once and not by way of a double. -/
def singleOfInt (value : Int) : Float32 :=
  .ofBits (.ofNat (BinaryFormat.single.encode (.finite (value < 0) value.natAbs 0)))

end CallProximity
