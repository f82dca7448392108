import CallProximity.Binary
import Mathlib

/-! Widening a single to a double loses nothing. The bits of a magnitude depend on its value alone, and a value that
has as many bits as a significand of the format is decoded from them again. -/

namespace CallProximity

namespace BinaryFormat

variable {format : BinaryFormat}

theorem powerOfTwo_add (first second : Nat) : powerOfTwo (first + second) = powerOfTwo first * powerOfTwo second :=
  Nat.pow_add ..

theorem powerOfTwo_pos (exponent : Nat) : 0 < powerOfTwo exponent :=
  Nat.two_pow_pos exponent

theorem log2_mul_powerOfTwo {value : Nat} (positive : value ≠ 0) (shift : Nat) :
    (value * powerOfTwo shift).log2 = value.log2 + shift := by
  have filled : value * powerOfTwo shift ≠ 0 := Nat.mul_ne_zero positive (powerOfTwo_pos shift).ne'
  rw [Nat.log2_eq_iff filled]
  constructor
  · rw [Nat.pow_add]
    exact Nat.mul_le_mul_right _ (Nat.log2_self_le positive)
  · rw [Nat.add_right_comm, Nat.pow_add]
    exact Nat.mul_lt_mul_of_pos_right Nat.lt_log2_self (powerOfTwo_pos shift)

theorem roundShift_mul (value shift extra : Nat) :
    roundShift (value * powerOfTwo extra) (shift + extra) = roundShift value shift := by
  have positive := powerOfTwo_pos extra
  simp only [roundShift, powerOfTwo_add, Nat.mul_div_mul_right _ _ positive, Nat.mul_mod_mul_right,
    ← Nat.mul_assoc, Nat.mul_lt_mul_right positive, Nat.mul_left_inj positive.ne']

theorem roundShift_exact (value shift : Nat) : roundShift (value * powerOfTwo shift) shift = value := by
  have whole : roundShift (value * powerOfTwo shift) (0 + shift) = roundShift value 0 := roundShift_mul ..
  rw [Nat.zero_add] at whole
  rw [whole]
  simp [roundShift, powerOfTwo, Nat.mod_one]

theorem magnitudeBits_mul (significand shift : Nat) (exponent : Int) :
    format.magnitudeBits (significand * powerOfTwo shift) (exponent - shift) =
      format.magnitudeBits significand exponent := by
  by_cases zero : significand = 0
  · simp [zero, magnitudeBits]
  have filled : significand * powerOfTwo shift ≠ 0 := Nat.mul_ne_zero zero (powerOfTwo_pos shift).ne'
  simp only [magnitudeBits, zero, filled, ↓reduceIte, log2_mul_powerOfTwo zero]
  have lead : exponent - shift + (significand.log2 + shift : Nat) = exponent + significand.log2 := by omega
  rw [lead]
  generalize max (exponent + significand.log2 - format.fractionBits) format.leastExponent = last
  congr 2
  by_cases low : last ≤ exponent - shift
  · have lower : last ≤ exponent := by omega
    have apart : (exponent - last).toNat = shift + (exponent - shift - last).toNat := by omega
    rw [if_pos low, if_pos lower, apart, powerOfTwo_add, Nat.mul_assoc]
  · rw [if_neg low]
    by_cases exact : last ≤ exponent
    · obtain ⟨kept, apart⟩ : ∃ kept,
          shift = kept + (last - (exponent - shift)).toNat ∧ (exponent - last).toNat = kept :=
        ⟨(exponent - last).toNat, by omega, rfl⟩
      generalize (last - (exponent - shift)).toNat = dropped at apart ⊢
      rw [if_pos exact, apart.1, apart.2, powerOfTwo_add, ← Nat.mul_assoc, roundShift_exact]
    · have apart : (last - (exponent - shift)).toNat = (last - exponent).toNat + shift := by omega
      rw [if_neg exact, apart, roundShift_mul]

/-- The bits of a magnitude that is no sum: the biased exponent, less one, with the leading bit of the significand added
to it. -/
theorem magnitudeBits_of_canonical {significand : Nat} {exponent : Int} (filled : significand ≠ 0)
    (canonical : max (exponent + significand.log2 - format.fractionBits) format.leastExponent = exponent) :
    format.magnitudeBits significand exponent = min format.infinityBits
      ((exponent - format.leastExponent).toNat * powerOfTwo format.fractionBits + significand) := by
  simp only [magnitudeBits, filled, ↓reduceIte, canonical, Int.le_refl, Int.sub_self, Int.toNat_zero]
  simp [powerOfTwo]

theorem signWeight_eq : format.signWeight = powerOfTwo format.fractionBits * powerOfTwo format.exponentBits :=
  powerOfTwo_add ..

def biased (format : BinaryFormat) (bits : Nat) : Nat :=
  bits % format.signWeight / powerOfTwo format.fractionBits

theorem biased_lt (bits : Nat) : format.biased bits < powerOfTwo format.exponentBits := by
  have positive : 0 < format.signWeight := powerOfTwo_pos _
  rw [biased]
  apply Nat.div_lt_of_lt_mul
  rw [← signWeight_eq]
  exact Nat.mod_lt bits positive

theorem le_infinityBits {biased fraction : Nat} (bounded : biased + 1 < powerOfTwo format.exponentBits)
    (inside : fraction < powerOfTwo format.fractionBits) :
    biased * powerOfTwo format.fractionBits + fraction ≤ format.infinityBits := by
  have next : (biased + 1) * powerOfTwo format.fractionBits ≤ format.infinityBits :=
    Nat.mul_le_mul_right _ (by omega)
  rw [Nat.succ_mul] at next
  omega

theorem magnitudeBits_subnormal {fraction : Nat} (inside : fraction < powerOfTwo format.fractionBits)
    (roomy : 1 < powerOfTwo format.exponentBits) :
    format.magnitudeBits fraction format.leastExponent = fraction := by
  by_cases zero : fraction = 0
  · simp [zero, magnitudeBits]
  have short : fraction.log2 < format.fractionBits := (Nat.log2_lt zero).mpr inside
  have below : 0 * powerOfTwo format.fractionBits + fraction ≤ format.infinityBits := le_infinityBits roomy inside
  rw [magnitudeBits_of_canonical zero (by omega), Int.sub_self, Int.toNat_zero, Nat.min_eq_right below]
  omega

theorem magnitudeBits_normal {biased fraction : Nat} (bounded : biased + 2 < powerOfTwo format.exponentBits)
    (inside : fraction < powerOfTwo format.fractionBits) :
    format.magnitudeBits (powerOfTwo format.fractionBits + fraction) (format.leastExponent + biased) =
      (biased + 1) * powerOfTwo format.fractionBits + fraction := by
  have positive := powerOfTwo_pos format.fractionBits
  have filled : powerOfTwo format.fractionBits + fraction ≠ 0 := by omega
  have full : (powerOfTwo format.fractionBits + fraction).log2 = format.fractionBits := by
    have double : 2 ^ (format.fractionBits + 1) = powerOfTwo format.fractionBits * 2 := Nat.pow_succ ..
    rw [Nat.log2_eq_iff filled, double]
    exact ⟨Nat.le_add_right _ _, by omega⟩
  have below : (biased + 1) * powerOfTwo format.fractionBits + fraction ≤ format.infinityBits :=
    le_infinityBits bounded inside
  have place : (format.leastExponent + biased - format.leastExponent).toNat = biased := by omega
  rw [magnitudeBits_of_canonical filled (by omega), place, ← Nat.add_assoc, ← Nat.succ_mul, Nat.min_eq_right below]

theorem encode_decode {bits : Nat} (bounded : bits < 2 * format.signWeight)
    (finite : format.biased bits ≠ powerOfTwo format.exponentBits - 1) :
    format.encode (format.decode bits) = bits := by
  have signed : (bits / format.signWeight % 2 == 1).toNat * format.signWeight + bits % format.signWeight = bits := by
    have sign : bits / format.signWeight < 2 := Nat.div_lt_of_lt_mul (by rwa [Nat.mul_comm])
    have unit : ∀ sign < 2, (sign % 2 == 1).toNat = sign := by decide
    rw [unit _ sign, Nat.div_add_mod']
  have inside := Nat.mod_lt (bits % format.signWeight) (powerOfTwo_pos format.fractionBits)
  have parts := Nat.div_add_mod' (bits % format.signWeight) (powerOfTwo format.fractionBits)
  have high := format.biased_lt bits
  rw [biased] at finite high
  simp only [decode, finite, ↓reduceIte]
  generalize bits % format.signWeight / powerOfTwo format.fractionBits = exponent at *
  generalize bits % format.signWeight % powerOfTwo format.fractionBits = fraction at *
  cases exponent with
  | zero =>
    rw [Nat.zero_mul, Nat.zero_add] at parts
    rw [if_pos rfl, encode, magnitudeBits_subnormal inside (by omega), parts, signed]
  | succ exponent =>
    have lower : format.leastExponent + (exponent + 1 : Nat) - 1 = format.leastExponent + exponent := by omega
    rw [if_neg (Nat.succ_ne_zero exponent), lower, encode, magnitudeBits_normal (by omega) inside, parts, signed]

theorem decode_encode {negative : Bool} {biased fraction : Nat} (inside : fraction < powerOfTwo format.fractionBits)
    (bounded : biased + 2 < powerOfTwo format.exponentBits) :
    format.decode (format.encode
        (.finite negative (powerOfTwo format.fractionBits + fraction) (format.leastExponent + biased))) =
      .finite negative (powerOfTwo format.fractionBits + fraction) (format.leastExponent + biased) := by
  have magnitude : (biased + 1) * powerOfTwo format.fractionBits + fraction < format.signWeight := by
    have next : (biased + 2) * powerOfTwo format.fractionBits ≤
        powerOfTwo format.exponentBits * powerOfTwo format.fractionBits :=
      Nat.mul_le_mul_right _ (by omega)
    rw [signWeight_eq, Nat.mul_comm (powerOfTwo format.fractionBits)]
    rw [Nat.succ_mul] at next
    omega
  have exponent : ((biased + 1) * powerOfTwo format.fractionBits + fraction) / powerOfTwo format.fractionBits =
      biased + 1 := by
    rw [Nat.mul_comm, Nat.mul_add_div (powerOfTwo_pos _), Nat.div_eq_of_lt inside, Nat.add_zero]
  have rest : ((biased + 1) * powerOfTwo format.fractionBits + fraction) % powerOfTwo format.fractionBits =
      fraction := by
    rw [Nat.mul_comm, Nat.mul_add_mod, Nat.mod_eq_of_lt inside]
  have sign : (negative.toNat * format.signWeight + ((biased + 1) * powerOfTwo format.fractionBits + fraction)) /
      format.signWeight = negative.toNat := by
    rw [Nat.mul_comm, Nat.mul_add_div (by omega), Nat.div_eq_of_lt magnitude, Nat.add_zero]
  have unsigned : (negative.toNat * format.signWeight + ((biased + 1) * powerOfTwo format.fractionBits + fraction)) %
      format.signWeight = (biased + 1) * powerOfTwo format.fractionBits + fraction := by
    rw [Nat.mul_comm, Nat.mul_add_mod, Nat.mod_eq_of_lt magnitude]
  have finite : biased + 1 ≠ powerOfTwo format.exponentBits - 1 := by omega
  have lower : format.leastExponent + (biased + 1 : Nat) - 1 = format.leastExponent + biased := by omega
  rw [encode, magnitudeBits_normal bounded inside]
  simp only [decode, sign, unsigned, exponent, rest, finite, ↓reduceIte, Nat.succ_ne_zero, lower]
  cases negative <;> rfl

theorem decode_encode_zero (negative : Bool) (exponent : Int) (roomy : 1 < powerOfTwo format.exponentBits) :
    format.decode (format.encode (.finite negative 0 exponent)) = .finite negative 0 format.leastExponent := by
  have positive : 0 < format.signWeight := powerOfTwo_pos _
  have finite : 0 ≠ powerOfTwo format.exponentBits - 1 := by omega
  have zero : format.magnitudeBits 0 exponent = 0 := rfl
  simp only [encode, decode, zero, Nat.add_zero, Nat.mul_div_cancel _ positive, Nat.mul_mod_left, Nat.zero_div,
    Nat.zero_mod, finite, ↓reduceIte]
  cases negative <;> rfl

/-- A value with no more bits than a significand is decoded from its own bits, as a number that has the same bits in
every other format. -/
theorem decode_encode_of_fits (negative : Bool) {significand : Nat} {exponent : Int}
    (narrow : significand.log2 ≤ format.fractionBits) (roomy : 1 < powerOfTwo format.exponentBits)
    (least : format.leastExponent ≤ exponent + significand.log2 - format.fractionBits)
    (bounded : exponent + significand.log2 - format.fractionBits - format.leastExponent + 2 <
      powerOfTwo format.exponentBits) :
    ∃ kept lower, format.decode (format.encode (.finite negative significand exponent)) = .finite negative kept lower ∧
      ∀ other : BinaryFormat,
        other.encode (.finite negative kept lower) = other.encode (.finite negative significand exponent) := by
  by_cases zero : significand = 0
  · subst zero
    exact ⟨0, format.leastExponent, decode_encode_zero negative exponent roomy, fun _ => rfl⟩
  obtain ⟨shift, full⟩ := Nat.exists_eq_add_of_le narrow
  have same (other : BinaryFormat) :
      other.encode (.finite negative (significand * powerOfTwo shift) (exponent - shift)) =
        other.encode (.finite negative significand exponent) := by
    rw [encode, encode, magnitudeBits_mul]
  have lead : (significand * powerOfTwo shift).log2 = format.fractionBits := by
    rw [log2_mul_powerOfTwo zero, full]
  obtain ⟨fraction, split⟩ : ∃ fraction,
      significand * powerOfTwo shift = powerOfTwo format.fractionBits + fraction := by
    refine Nat.exists_eq_add_of_le ?_
    rw [← lead]
    exact Nat.log2_self_le (Nat.mul_ne_zero zero (powerOfTwo_pos shift).ne')
  have inside : fraction < powerOfTwo format.fractionBits := by
    have below : significand * powerOfTwo shift < 2 ^ (format.fractionBits + 1) := by
      rw [← lead]
      exact Nat.lt_log2_self
    have double : 2 ^ (format.fractionBits + 1) = powerOfTwo format.fractionBits * 2 := Nat.pow_succ ..
    omega
  obtain ⟨biased, place⟩ : ∃ biased : Nat, exponent - shift = format.leastExponent + biased :=
    ⟨(exponent - shift - format.leastExponent).toNat, by omega⟩
  refine ⟨_, _, ?_, same⟩
  rw [← same, split, place, decode_encode inside (by omega)]

theorem encode_lt (negative : Bool) (significand : Nat) (exponent : Int) :
    format.encode (.finite negative significand exponent) < 2 * format.signWeight := by
  have below : format.infinityBits < format.signWeight := by
    rw [signWeight_eq, infinityBits, Nat.mul_comm]
    exact Nat.mul_lt_mul_of_pos_left (Nat.sub_lt (powerOfTwo_pos _) Nat.one_pos) (powerOfTwo_pos _)
  have bounded : format.magnitudeBits significand exponent ≤ format.infinityBits := by
    rw [magnitudeBits]
    split
    · exact Nat.zero_le _
    · exact Nat.min_le_left ..
  rw [encode]
  cases negative <;> simp <;> omega

/-- Bits are those of a finite value just when not all bits of the exponent are set. -/
theorem biased_of_decode {bits significand : Nat} {negative : Bool} {exponent : Int}
    (decoded : format.decode bits = .finite negative significand exponent) :
    format.biased bits ≠ powerOfTwo format.exponentBits - 1 := by
  intro infinite
  rw [biased] at infinite
  simp only [decode, infinite, ↓reduceIte] at decoded
  split at decoded <;> cases decoded

theorem exists_decode_of_biased {bits : Nat} (finite : format.biased bits ≠ powerOfTwo format.exponentBits - 1) :
    ∃ negative significand exponent, format.decode bits = .finite negative significand exponent ∧
      significand.log2 ≤ format.fractionBits ∧ format.leastExponent ≤ exponent ∧
      exponent < format.leastExponent + powerOfTwo format.exponentBits := by
  have bounded := format.biased_lt bits
  have inside := Nat.mod_lt (bits % format.signWeight) (powerOfTwo_pos format.fractionBits)
  rw [biased] at finite bounded
  simp only [decode, finite, ↓reduceIte]
  generalize bits % format.signWeight / powerOfTwo format.fractionBits = exponent at *
  generalize bits % format.signWeight % powerOfTwo format.fractionBits = fraction at *
  have short {significand : Nat} (below : significand < powerOfTwo (format.fractionBits + 1)) :
      significand.log2 ≤ format.fractionBits := by
    by_cases zero : significand = 0
    · simp [zero]
    · exact Nat.le_of_lt_succ ((Nat.log2_lt zero).mpr below)
  have double : powerOfTwo (format.fractionBits + 1) = powerOfTwo format.fractionBits * 2 := Nat.pow_succ ..
  split
  · exact ⟨_, _, _, rfl, short (by omega), by omega, by omega⟩
  · exact ⟨_, _, _, rfl, short (by omega), by omega, by omega⟩

end BinaryFormat

section Bits

open Float.Model

variable {spec : Format} 

theorem unpackExponent_eq_iff (bits : BitVec spec.numBits) :
    UnpackedFloat.unpackExponent bits = -BitVec.ofNat spec.exponentBits 1 ↔
      bits.toNat / 2 ^ spec.mantissaBitsWithoutImplicit % 2 ^ spec.exponentBits = 2 ^ spec.exponentBits - 1 := by
  rw [BitVec.neg_one_eq_allOnes, ← BitVec.toNat_inj, BitVec.toNat_allOnes, UnpackedFloat.unpackExponent_def,
    BitVec.extractLsb'_toNat, Nat.shiftRight_eq_div_pow]

theorem isFinite_unpack_iff (bits : BitVec spec.numBits) : (UnpackedFloat.unpack spec bits).isFinite = true ↔
    bits.toNat / 2 ^ spec.mantissaBitsWithoutImplicit % 2 ^ spec.exponentBits ≠ 2 ^ spec.exponentBits - 1 := by
  rw [Ne, ← unpackExponent_eq_iff, UnpackedFloat.unpack]
  by_cases infinite : UnpackedFloat.unpackExponent bits = -BitVec.ofNat spec.exponentBits 1
  · simp only [infinite, ↓reduceIte, not_true, iff_false]
    split <;> simp [UnpackedFloat.isFinite]
  · simp only [infinite, ↓reduceIte, not_false_eq_true, iff_true]
    split
    · split <;> rfl
    · rfl

theorem pack_unpack_of_isFinite {bits : BitVec spec.numBits} (roomy : 2 ≤ spec.exponentBits)
    (finite : (UnpackedFloat.unpack spec bits).isFinite = true) :
    UnpackedFloat.pack spec (UnpackedFloat.unpack spec bits) = bits := by
  rw [UnpackedFloat.pack_unpack bits roomy, if_neg]
  intro nan
  have infinite : UnpackedFloat.unpackExponent bits = -BitVec.ofNat spec.exponentBits 1 := (of_decide_eq_true nan).1
  exact (isFinite_unpack_iff bits).mp finite ((unpackExponent_eq_iff bits).mp infinite)

theorem toBits_ofBits {bits : UInt64} (finite : bits.toNat / 2 ^ 52 % 2 ^ 11 ≠ 2047) :
    (Float.ofBits bits).toBits = bits ∧ (Float.ofBits bits).isFinite = true := by
  have number : (UnpackedFloat.unpack .binary64 bits.toBitVec).isFinite = true := (isFinite_unpack_iff _).mpr finite
  have same : (Float.ofBits bits).toBits = bits := by
    apply UInt64.toBitVec_inj.mp
    exact pack_unpack_of_isFinite (by decide) number
  refine ⟨same, ?_⟩
  have kept : (Float.ofBits bits).isFinite =
      (UnpackedFloat.unpack .binary64 (Float.ofBits bits).toBits.toBitVec).isFinite := rfl
  rw [kept, same, number]

theorem exponent_of_isFinite {value : Float32} (finite : value.isFinite = true) :
    value.toBits.toNat / 2 ^ 23 % 2 ^ 8 ≠ 255 :=
  (@isFinite_unpack_iff .binary32 value.toBits.toBitVec).mp finite

end Bits

theorem biased_toBits {value : Float32} (finite : value.isFinite = true) :
    BinaryFormat.single.biased value.toBits.toNat ≠ 255 := by
  have exponent := exponent_of_isFinite finite
  have part : BinaryFormat.single.biased value.toBits.toNat = value.toBits.toNat % 2147483648 / 8388608 := rfl
  omega

/-- A finite single is a finite double, and narrowing gives it back. -/
theorem narrow_widen {value : Float32} (finite : value.isFinite = true) :
    (widen value).isFinite = true ∧ narrow (widen value) = value := by
  obtain ⟨negative, significand, exponent, decoded, short, lowest, highest⟩ :=
    BinaryFormat.exists_decode_of_biased (biased_toBits finite)
  have single : BinaryFormat.single.fractionBits = 23 ∧ BinaryFormat.single.leastExponent = -149 ∧
      powerOfTwo BinaryFormat.single.exponentBits = 256 := by decide
  have double : BinaryFormat.double.fractionBits = 52 ∧ BinaryFormat.double.leastExponent = -1074 ∧
      powerOfTwo BinaryFormat.double.exponentBits = 2048 := by decide
  have fits : significand.log2 ≤ BinaryFormat.double.fractionBits := by omega
  have least : BinaryFormat.double.leastExponent ≤ exponent + significand.log2 - BinaryFormat.double.fractionBits := by
    omega
  obtain ⟨kept, lower, wide, same⟩ := BinaryFormat.decode_encode_of_fits negative fits (by omega) least (by omega)
  have word := BinaryFormat.double.encode_lt negative significand exponent
  have exponentWide := BinaryFormat.biased_of_decode wide
  have encoded : widen value =
      .ofBits (.ofNat (BinaryFormat.double.encode (.finite negative significand exponent))) := by
    rw [widen, decoded]
  generalize BinaryFormat.double.encode (.finite negative significand exponent) = bits at encoded wide word exponentWide
  have small : bits < 18446744073709551616 := word
  have held : (UInt64.ofNat bits).toNat = bits := by
    rw [UInt64.toNat_ofNat', Nat.mod_eq_of_lt small]
  have part : BinaryFormat.double.biased bits = bits % 9223372036854775808 / 4503599627370496 := rfl
  have unset : (UInt64.ofNat bits).toNat / 2 ^ 52 % 2 ^ 11 ≠ 2047 := by omega
  obtain ⟨bitsWide, finiteWide⟩ := toBits_ofBits unset
  refine ⟨encoded ▸ finiteWide, ?_⟩
  have narrowed : BinaryFormat.single.encode (BinaryFormat.double.decode bits) = value.toBits.toNat := by
    rw [wide, same, ← decoded]
    exact BinaryFormat.encode_decode value.toBits.toNat_lt (biased_toBits finite)
  rw [encoded, narrow, bitsWide, held, narrowed, UInt32.ofNat_toNat, Float32.ofBits_toBits]

end CallProximity
