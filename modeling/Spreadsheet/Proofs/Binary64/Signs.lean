import Spreadsheet.Proofs.Binary64.Packing

/-!
# Decimals without a sign

A decimal that is written without a sign becomes zero, a positive value or infinity, and each
with the positive sign. Rounding threads the sign through whatever it does to the significand,
and packing keeps it even where a value does not fit.
-/

namespace Spreadsheet.Binary64

open Float.Model Float.Model.UnpackedFloat

/-- A number, infinite perhaps, that is not negative; its sign bit is clear, also if it is
zero. -/
structure IsNonnegative (number : Float) : Prop where
  isNumber : number.isNaN = false
  notBelowZero : 0.0 ≤ number
  signClear : number.toBits.toNat < 2 ^ 63

/-- The unpacked values that are numbers with the positive sign. -/
inductive IsUnsigned : UnpackedFloat → Prop where
  | infinity : IsUnsigned (.infinity .positive)
  | zero : IsUnsigned (.zero .positive)
  | finite {significand : Nat} {exponent : Int} (positive : 0 < significand) :
      IsUnsigned (.finite .positive significand exponent positive)

/-! ## Packing -/

/-- Fields with the positive sign are unpacked to a value with it, unless they are those of
not-a-number. -/
theorem isUnsigned_unpack_components {exponent : BitVec 11} {mantissa : BitVec 52}
    (isNumber : exponent = -1#11 → mantissa = 0#52) :
    IsUnsigned (UnpackedFloat.unpack .binary64
      (packComponents .binary64 .positive exponent mantissa)) := by
  simp only [UnpackedFloat.unpack, unpackMantissa_packComponents, unpackExponent_packComponents,
    unpackSign_packComponents, Sign.ofBitVec_toBitVec]
  split
  · rename_i last
    rw [if_pos (isNumber last)]
    exact .infinity
  split
  · split
    · exact .zero
    · exact .finite _
  · exact .finite _

/-- Packing gives no sign to a number without one. -/
theorem IsUnsigned.unpack_pack {value : UnpackedFloat} (isUnsigned : IsUnsigned value) :
    IsUnsigned (UnpackedFloat.unpack .binary64 (UnpackedFloat.pack .binary64 value)) := by
  cases isUnsigned with
  | infinity => exact isUnsigned_unpack_components fun _ => rfl
  | zero => exact isUnsigned_unpack_components fun _ => rfl
  | @finite significand exponent positive =>
    simp only [UnpackedFloat.pack]
    generalize (exponent + Format.binary64.exponentBias +
      Format.binary64.mantissaBitsWithoutImplicit).toNat = biased
    split
    · exact isUnsigned_unpack_components fun _ => rfl
    rename_i fits
    split
    · refine isUnsigned_unpack_components fun last => ?_
      have number := congrArg BitVec.toNat last
      change biased % 2 ^ 11 = 2047 at number
      change ¬ 2 ^ 11 ≤ biased + 1 at fits
      omega
    · exact isUnsigned_unpack_components fun last => by cases last

/-! ## Rounding -/

/-- Rounding gives no sign to a number without one. -/
theorem isUnsigned_roundWithAccuracy (format : Format) (significand : Nat) (exponent : Int)
    (accuracy : Accuracy) :
    IsUnsigned (roundWithAccuracy format .positive significand exponent accuracy) := by
  simp only [roundWithAccuracy]
  split
  · exact .zero
  · exact .finite _

/-- A decimal without a sign is rounded to a number without one. -/
theorem isUnsigned_ofScientific (format : Format) (digits : Nat) (power : Int) :
    IsUnsigned (UnpackedFloat.ofScientific format digits power) := by
  unfold UnpackedFloat.ofScientific
  split
  · exact .zero
  split
  · exact .infinity
  split
  · exact .zero
  split
  · exact isUnsigned_roundWithAccuracy format _ _ _
  · exact isUnsigned_roundWithAccuracy format _ _ _

/-! ## Values -/

section Values

variable {value : UnpackedFloat}

/-- What has no sign is a number. -/
theorem IsUnsigned.isNaN_eq_false (isUnsigned : IsUnsigned value) : value.isNaN = false := by
  cases isUnsigned <;> rfl

/-- A number without a sign is not below zero. -/
theorem IsUnsigned.zero_le (isUnsigned : IsUnsigned value) :
    (UnpackedFloat.zero .positive).le value = true := by
  cases isUnsigned <;> rfl

end Values

/-- A word that holds a value with the positive sign has that sign among its fields. -/
theorem unpackSign_of_isUnsigned {bits : BitVec Format.binary64.numBits}
    (isUnsigned : IsUnsigned (UnpackedFloat.unpack .binary64 bits)) : unpackSign bits = 0#1 := by
  have positive : Sign.ofBitVec (unpackSign bits) = .positive := by
    simp only [UnpackedFloat.unpack] at isUnsigned
    generalize Sign.ofBitVec (unpackSign bits) = sign at isUnsigned
    split at isUnsigned
    · split at isUnsigned <;> cases isUnsigned
      rfl
    split at isUnsigned
    · split at isUnsigned <;> cases isUnsigned <;> rfl
    · cases isUnsigned
      rfl
  rw [← Sign.toBitVec_ofBitVec (unpackSign bits), positive]
  rfl

/-- The sign field is the highest bit. -/
theorem toNat_lt_of_unpackSign {bits : UInt64}
    (clear : @unpackSign .binary64 bits.toBitVec = 0#1) : bits.toNat < 2 ^ 63 := by
  have highest := congrArg BitVec.toNat clear
  rw [unpackSign_def] at highest
  change bits.toNat >>> 63 % 2 = 0 at highest
  have small := bits.toNat_lt
  rw [Nat.shiftRight_eq_div_pow] at highest
  omega

/-- A decimal without a sign is a number that is not negative. -/
theorem isNonnegative_ofScientific (digits : Nat) (power : Int) :
    IsNonnegative (.ofModel (.ofScientific digits power)) := by
  have isUnsigned : IsUnsigned (Float.Model.ofScientific digits power).unpack :=
    (isUnsigned_ofScientific .binary64 digits power).unpack_pack
  have zero : (0.0 : Float).toModel.unpack = .zero .positive := rfl
  refine
    { isNumber := isUnsigned.isNaN_eq_false
      notBelowZero := decide_eq_true (p := (0.0 : Float).toModel ≤ .ofScientific digits power) ?_
      signClear := toNat_lt_of_unpackSign (unpackSign_of_isUnsigned isUnsigned) }
  change UnpackedFloat.le (0.0 : Float).toModel.unpack _ = true
  rw [zero]
  exact isUnsigned.zero_le

end Spreadsheet.Binary64
