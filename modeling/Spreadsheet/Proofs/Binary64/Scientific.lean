import Spreadsheet.Proofs.Binary64.Rounding

/-!
# Decimals as binary64 values

A decimal is brought to a value by one exact multiplication or by one division with remainder,
and one rounding. Either way nothing is lost before the rounding, so a decimal
that rounds to a value becomes that value. The decimals that are told apart by the size of their
exponent alone are far outside of the range.
-/

namespace Spreadsheet.Binary64

open Float.Model Float.Model.UnpackedFloat

section Scientific

variable {number : ℚ} {significand digits : Nat} {exponent power : Int}

/-- What rounds to a value is in the range of the values. -/
theorem RoundsTo.range (areParts : AreParts significand exponent)
    (rounds : RoundsTo number significand exponent) :
    2 ^ (-1075 : Int) ≤ number ∧ number < 2 ^ (1024 : Int) := by
  obtain ⟨lower, upper⟩ := rounds.bounds
  obtain ⟨notUnder, notOver⟩ := areParts.exponent_bounds
  have near := (lowerEnd_bounds significand exponent).1.trans lower
  have unit : (0 : ℚ) < 2 ^ exponent := by positivity
  constructor
  · have least : (1 : ℚ) ≤ significand := by exact_mod_cast areParts.significand_pos
    have half : (2 : ℚ) ^ (-1 : Int) ≤ number / 2 ^ exponent := by
      norm_num
      linarith
    calc (2 : ℚ) ^ (-1075 : Int)
        ≤ 2 ^ (-1 + exponent) := zpow_le_zpow_right₀ one_le_two (by omega)
      _ = 2 ^ (-1 : Int) * 2 ^ exponent := zpow_add₀ two_ne_zero _ _
      _ ≤ number := (le_div_iff₀ unit).mp half
  · have greatest : (significand + 1 : ℚ) ≤ 2 ^ 53 := by exact_mod_cast areParts.significand_lt
    have fits : number / 2 ^ exponent < 2 ^ (53 : Int) := by
      norm_num at greatest ⊢
      linarith
    calc number
        < 2 ^ (53 : Int) * 2 ^ exponent := (div_lt_iff₀ unit).mp fits
      _ = 2 ^ (53 + exponent) := (zpow_add₀ two_ne_zero _ _).symm
      _ ≤ 2 ^ (1024 : Int) := zpow_le_zpow_right₀ one_le_two (by omega)

/-- A whole number is represented without extra bits. -/
theorem represents_exact (mantissa : Nat) :
    Represents (.ofMantissaAndAccuracy mantissa .exact) mantissa := by
  simpa [accuracyOfFraction] using represents_fraction mantissa Nat.zero_lt_one

/-- A product is made long enough before it is rounded. -/
theorem round_product (areParts : AreParts significand exponent) {scale : Nat}
    (rounds : RoundsTo (digits * scale) significand exponent) (filled : digits ≠ 0)
    (filledScale : 0 < scale) (sign : Sign) :
    roundWithAccuracy .binary64 sign ((digits <<< 53) * scale) (-53) .exact =
      .finite sign significand exponent areParts.significand_pos := by
  have whole : (digits <<< 53) * scale = digits * scale * 2 ^ 53 := by
    rw [Nat.shiftLeft_eq]
    ring
  have represents : Represents (.ofMantissaAndAccuracy ((digits <<< 53) * scale) .exact)
      (digits * scale / 2 ^ (-53 : Int)) := by
    have exact := represents_exact ((digits <<< 53) * scale)
    rw [whole] at exact ⊢
    push_cast at exact
    rw [zpow_neg, div_inv_eq_mul]
    exact exact
  have filledProduct : 0 < digits * scale := Nat.mul_pos (Nat.pos_of_ne_zero filled) filledScale
  have long : 53 ≤ ((digits <<< 53) * scale).log2 := by
    rw [whole]
    have enough := Nat.le_mul_of_pos_left (2 ^ 53) filledProduct
    exact (Nat.le_log2 (by omega)).mpr enough
  refine roundWithAccuracy_eq areParts rounds represents ?_ sign
  rw [targetExponent_eq, totalExponent]
  omega

/-- Above the least place, a quotient is computed to fifty-three bits. -/
theorem le_quotient {scale : Nat} (shift : Nat) (filled : digits ≠ 0) (filledScale : 0 < scale)
    (enough : scale.log2 + 54 ≤ digits.log2 + 1 + shift) :
    2 ^ 52 ≤ (digits <<< shift) / scale := by
  rw [Nat.le_div_iff_mul_le filledScale, Nat.shiftLeft_eq]
  calc 2 ^ 52 * scale
      ≤ 2 ^ 52 * 2 ^ (scale.log2 + 1) := Nat.mul_le_mul_left _ Nat.lt_log2_self.le
    _ = 2 ^ (52 + (scale.log2 + 1)) := (Nat.pow_add _ _ _).symm
    _ ≤ 2 ^ (digits.log2 + shift) := Nat.pow_le_pow_right two_pos (by omega)
    _ = 2 ^ digits.log2 * 2 ^ shift := Nat.pow_add _ _ _
    _ ≤ digits * 2 ^ shift := Nat.mul_le_mul_right _ (Nat.log2_self_le filled)

/-- A quotient is made long enough before it is rounded, and the remainder is not forgotten. -/
theorem round_quotient (areParts : AreParts significand exponent) {scale : Nat}
    (rounds : RoundsTo (digits / scale) significand exponent) (filled : digits ≠ 0)
    (filledScale : 0 < scale) (sign : Sign) :
    roundWithAccuracy .binary64 sign (divCore .binary64 digits 0 scale 0).1
        (divCore .binary64 digits 0 scale 0).2.1 (divCore .binary64 digits 0 scale 0).2.2 =
      .finite sign significand exponent areParts.significand_pos := by
  simp only [divCore, targetExponent_eq, totalExponent, add_zero, sub_self, zero_sub]
  generalize chosen : min 0 (max (_ - 53) (-1074) : Int) = place
  have represents : Represents (.ofMantissaAndAccuracy (digits <<< (-place).toNat / scale)
      (accuracyOfFraction (digits <<< (-place).toNat % scale) scale))
      (digits / scale / 2 ^ place) := by
    have exact := represents_fraction (digits <<< (-place).toNat / scale)
      (Nat.mod_lt (digits <<< (-place).toNat) filledScale)
    have positive : (0 : ℚ) < scale := by exact_mod_cast filledScale
    have division : (scale : ℚ) * (digits <<< (-place).toNat / scale : Nat) +
        (digits <<< (-place).toNat % scale : Nat) = digits * 2 ^ (-place).toNat := by
      have whole := Nat.div_add_mod (digits <<< (-place).toNat) scale
      rw [Nat.shiftLeft_eq] at whole ⊢
      exact_mod_cast whole
    have power : (2 : ℚ) ^ place = (2 ^ (-place).toNat)⁻¹ := by
      rw [← zpow_natCast, ← zpow_neg]
      congr 1
      omega
    have same : (digits / scale / 2 ^ place : ℚ) = (digits <<< (-place).toNat / scale : Nat) +
        (digits <<< (-place).toNat % scale : Nat) / scale := by
      rw [power, div_inv_eq_mul, div_mul_eq_mul_div, ← division, add_div,
        mul_div_cancel_left₀ _ positive.ne']
    rw [same]
    exact exact
  refine roundWithAccuracy_eq areParts rounds represents ?_ sign
  rw [targetExponent_eq, totalExponent]
  by_cases atLeast : place ≤ -1074
  · omega
  · have long := le_quotient (-place).toNat filled filledScale (by omega)
    have length := (Nat.le_log2 (by omega)).mpr long
    omega

/-- No decimal that rounds to a value has an exponent that is told to be out of range. -/
theorem RoundsTo.power_bounds (areParts : AreParts significand exponent)
    (rounds : RoundsTo (digits * 10 ^ power) significand exponent) :
    digits ≠ 0 ∧ power ≤ 2048 ∧ -(2048 + digits.log2 : Int) ≤ power := by
  obtain ⟨notTiny, notHuge⟩ := rounds.range areParts
  have filled : digits ≠ 0 := by
    rintro rfl
    have least : (0 : ℚ) < 2 ^ (-1075 : Int) := by positivity
    rw [Nat.cast_zero, zero_mul] at notTiny
    linarith
  refine ⟨filled, ?_, ?_⟩
  · by_contra! above
    have least : (1 : ℚ) ≤ digits := by exact_mod_cast Nat.pos_of_ne_zero filled
    have huge : (2 : ℚ) ^ (1024 : Int) ≤ digits * 10 ^ power := by
      calc (2 : ℚ) ^ (1024 : Int)
          ≤ 2 ^ power := zpow_le_zpow_right₀ one_le_two (by omega)
        _ ≤ 10 ^ power := zpow_le_zpow_left₀ (by omega) two_pos.le (by norm_num)
        _ ≤ digits * 10 ^ power := le_mul_of_one_le_left (by positivity) least
    linarith
  · by_contra! below
    have greatest : (digits : ℚ) ≤ 2 ^ ((digits.log2 + 1 : Nat) : Int) := by
      exact_mod_cast Nat.lt_log2_self.le
    have shrinks : (10 : ℚ) ^ power ≤ 2 ^ power := by
      rw [← neg_neg power, zpow_neg, zpow_neg 2]
      exact inv_anti₀ (by positivity) (zpow_le_zpow_left₀ (by omega) two_pos.le (by norm_num))
    have tiny : digits * 10 ^ power < (2 : ℚ) ^ (-1075 : Int) := by
      calc (digits * 10 ^ power : ℚ)
          ≤ 2 ^ ((digits.log2 + 1 : Nat) : Int) * 2 ^ power :=
            mul_le_mul greatest shrinks (by positivity) (by positivity)
        _ = 2 ^ (((digits.log2 + 1 : Nat) : Int) + power) := (zpow_add₀ two_ne_zero _ _).symm
        _ < 2 ^ (-1075 : Int) := zpow_lt_zpow_right₀ one_lt_two (by omega)
    linarith

/-- A decimal that rounds to a value becomes the value. -/
theorem ofScientific_eq (areParts : AreParts significand exponent)
    (rounds : RoundsTo (digits * 10 ^ power) significand exponent) :
    UnpackedFloat.ofScientific .binary64 digits power =
      .finite .positive significand exponent areParts.significand_pos := by
  obtain ⟨filled, notOver, notUnder⟩ := rounds.power_bounds areParts
  have limit : (2 ^ Format.binary64.exponentBits : Int) = 2048 := rfl
  unfold UnpackedFloat.ofScientific
  rw [dif_neg filled, if_neg (by omega), if_neg (by omega)]
  split
  · rename_i whole
    have scale : (10 : ℚ) ^ power = (10 ^ power.toNat : Nat) := by
      rw [Nat.cast_pow, ← zpow_natCast, Int.toNat_of_nonneg whole]
      norm_num
    rw [scale] at rounds
    exact round_product areParts rounds filled (by positivity) .positive
  · rename_i fraction
    have scale : (digits * 10 ^ power : ℚ) = digits / (10 ^ (-power).toNat : Nat) := by
      rw [Nat.cast_pow, ← zpow_natCast, Int.toNat_of_nonneg (by omega), zpow_neg, div_inv_eq_mul]
      norm_num
    rw [scale] at rounds
    exact round_quotient areParts rounds filled (by positivity) .positive

end Scientific

end Spreadsheet.Binary64
