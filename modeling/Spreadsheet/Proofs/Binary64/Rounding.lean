import Mathlib.Algebra.Order.Field.Basic
import Mathlib.Algebra.Order.Field.Power
import Mathlib.Algebra.Order.Ring.Rat
import Mathlib.Tactic.FieldSimp
import Mathlib.Tactic.Linarith
import Spreadsheet.Proofs.Binary64.Packing

/-!
# Rounding to binary64

Rounding works on a significand with two bits behind it: whether the rest is at least a half, and
whether there is more. `Represents` says what that is worth as a rational number, and every
shift keeps it. `RoundsTo` is the set of the numbers that are rounded to a value, in terms of its
parts; at a power of two the value below is nearer than the value above. Whatever
number of that set is to be rounded, with whatever bits it is given, the result has those parts.
-/

namespace Spreadsheet.Binary64

open Float.Model Float.Model.UnpackedFloat

/-! ## Significands with extra bits -/

/-- A number is the significand, one half if the round bit is set, and a rest below one half that
the sticky bit tells from zero. -/
def Represents (extended : ExtendedMantissa) (number : ℚ) : Prop :=
  ∃ rest : ℚ, 0 ≤ rest ∧ rest < 1 / 2 ∧ (extended.stickyBit = true ↔ 0 < rest) ∧
    number = extended.mantissa + (if extended.roundBit then 1 / 2 else 0) + rest

section Represents

variable {extended : ExtendedMantissa} {number : ℚ}

/-- A significand and a proper fraction, which was compared with a half. -/
theorem represents_fraction (mantissa : Nat) {numerator denominator : Nat}
    (proper : numerator < denominator) :
    Represents (.ofMantissaAndAccuracy mantissa (accuracyOfFraction numerator denominator))
      (mantissa + numerator / denominator) := by
  have filled : (0 : ℚ) < denominator := by exact_mod_cast Nat.zero_lt_of_lt proper
  have belowOne : (numerator / denominator : ℚ) < 1 := by
    rw [div_lt_one₀ filled]
    exact_mod_cast proper
  unfold accuracyOfFraction
  split
  · rename_i zero
    refine ⟨0, le_refl _, by norm_num, ?_, ?_⟩ <;>
      simp [ExtendedMantissa.ofMantissaAndAccuracy, zero]
  · rename_i notZero
    have positive : (0 : ℚ) < numerator / denominator :=
      div_pos (by exact_mod_cast Nat.pos_of_ne_zero notZero) filled
    cases order : compare (2 * numerator) denominator with
    | lt =>
      have belowHalf : (numerator / denominator : ℚ) < 1 / 2 := by
        rw [div_lt_div_iff₀ filled two_pos, one_mul, mul_comm]
        exact_mod_cast Nat.compare_eq_lt.mp order
      refine ⟨numerator / denominator, positive.le, belowHalf, ?_, ?_⟩ <;>
        simp [ExtendedMantissa.ofMantissaAndAccuracy, positive]
    | eq =>
      have half : (numerator / denominator : ℚ) = 1 / 2 := by
        rw [div_eq_div_iff filled.ne' two_ne_zero, one_mul, mul_comm]
        exact_mod_cast Nat.compare_eq_eq.mp order
      refine ⟨0, le_refl _, by norm_num, ?_, ?_⟩ <;>
        simp [ExtendedMantissa.ofMantissaAndAccuracy, half]
    | gt =>
      have aboveHalf : (1 / 2 : ℚ) < numerator / denominator := by
        rw [div_lt_div_iff₀ two_pos filled, one_mul, mul_comm _ (2 : ℚ)]
        exact_mod_cast Nat.compare_eq_gt.mp order
      refine ⟨numerator / denominator - 1 / 2, by linarith, by linarith, ?_, ?_⟩ <;>
        simp [ExtendedMantissa.ofMantissaAndAccuracy]
      linarith

/-- A number lies between its mantissa and the next. -/
theorem Represents.bounds (represents : Represents extended number) :
    extended.mantissa ≤ number ∧ number < extended.mantissa + 1 := by
  obtain ⟨rest, notNegative, small, -, rfl⟩ := represents
  split <;> constructor <;> linarith

/-- Dropping the last bit of the significand halves what is represented. -/
theorem Represents.shiftRightOne (represents : Represents extended number) :
    Represents extended.shiftRightOne (number / 2) := by
  obtain ⟨rest, notNegative, small, sticky, rfl⟩ := represents
  obtain ⟨mantissa, roundBit, stickyBit⟩ := extended
  have whole : (mantissa : ℚ) = 2 * (mantissa / 2 : ℕ) + (mantissa % 2 : ℕ) := by
    exact_mod_cast (Nat.div_add_mod mantissa 2).symm
  refine ⟨(if roundBit then 1 / 4 else 0) + rest / 2, ?_, ?_, ?_, ?_⟩
  · split <;> linarith
  · split <;> linarith
  · cases roundBit with
    | true =>
      simp only [ExtendedMantissa.shiftRightOne, Bool.true_or, if_true, true_iff]
      linarith
    | false =>
      simp only [ExtendedMantissa.shiftRightOne, Bool.false_or, Bool.false_eq_true, if_false,
        zero_add]
      exact sticky.trans ⟨half_pos, fun positive => by linarith⟩
  · simp only [ExtendedMantissa.shiftRightOne]
    rw [whole]
    rcases Nat.mod_two_eq_zero_or_one mantissa with even | odd
    · cases roundBit <;> simp [even] <;> ring
    · cases roundBit <;> simp [odd] <;> ring

/-- Dropping several bits. -/
theorem Represents.shiftRight (represents : Represents extended number) (count : Nat) :
    Represents (extended >>> count) (number / 2 ^ count) := by
  change Represents (count.repeat ExtendedMantissa.shiftRightOne extended) _
  induction count with
  | zero => simpa [Nat.repeat] using represents
  | succ count inductionHypothesis =>
    rw [pow_succ, ← div_div]
    exact inductionHypothesis.shiftRightOne

/-- A number is nearer to a natural number than to any other, or as near as to the odd one. -/
def IsNearest (number : ℚ) (target : Nat) : Prop :=
  (target - 1 / 2 < number ∧ number < target + 1 / 2) ∨
    (target % 2 = 0 ∧ (number = target - 1 / 2 ∨ number = target + 1 / 2))

/-- The nearest whole number is at most a half away. -/
theorem IsNearest.bounds {target : Nat} (nearest : IsNearest number target) :
    target - 1 / 2 ≤ number ∧ number ≤ target + 1 / 2 := by
  rcases nearest with ⟨lower, upper⟩ | ⟨-, rfl | rfl⟩
  · exact ⟨lower.le, upper.le⟩
  · exact ⟨le_refl _, by linarith⟩
  · exact ⟨by linarith, le_refl _⟩

/-- Rounding a significand with its extra bits gives the nearest natural number. -/
theorem Represents.roundedMantissa_eq (represents : Represents extended number) {target : Nat}
    (nearest : IsNearest number target) : extended.roundedMantissa = target := by
  obtain ⟨lower, upper⟩ := nearest.bounds
  obtain ⟨rest, notNegative, small, sticky, whole⟩ := represents
  obtain ⟨mantissa, roundBit, stickyBit⟩ := extended
  simp only at sticky whole
  have between {rounded : Nat} (least : (target : ℚ) < rounded + 1)
      (greatest : (rounded : ℚ) < target + 1) : rounded = target := by
    norm_cast at least greatest
    omega
  cases stickyBit with
  | true =>
    have positive := sticky.mp rfl
    cases roundBit with
    | false =>
      simp only [Bool.false_eq_true, if_false, add_zero] at whole
      change mantissa = target
      exact between (by linarith) (by linarith)
    | true =>
      simp only [if_true] at whole
      change mantissa + 1 = target
      exact between (by push_cast; linarith) (by push_cast; linarith)
  | false =>
    obtain rfl : rest = 0 := le_antisymm (not_lt.mp (by simpa using sticky)) notNegative
    cases roundBit with
    | false =>
      simp only [Bool.false_eq_true, if_false, add_zero] at whole
      change mantissa = target
      exact between (by linarith) (by linarith)
    | true =>
      -- Half way, and so the even neighbour is meant.
      simp only [if_true, add_zero] at whole
      change mantissa + mantissa % 2 = target
      rcases nearest with ⟨above, below⟩ | ⟨even, equal | equal⟩
      · have least : (mantissa : ℚ) < target := by linarith
        have greatest : (target : ℚ) < mantissa + 1 := by linarith
        norm_cast at least greatest
        omega
      · have next : (target : ℚ) = mantissa + 1 := by linarith
        norm_cast at next
        omega
      · have same : (mantissa : ℚ) = target := by linarith
        norm_cast at same
        omega

end Represents

/-! ## Numbers that round to a value -/

/-- The lower end of the numbers that round to a value, in units of its last place. -/
def lowerEnd (significand : Nat) (exponent : Int) : ℚ :=
  if significand = 2 ^ 52 ∧ -1074 < exponent then significand - 1 / 4 else significand - 1 / 2

/-- A number lies between the ends; the ends themselves belong to an even significand. -/
def RoundsTo (number : ℚ) (significand : Nat) (exponent : Int) : Prop :=
  let places := number / 2 ^ exponent
  (lowerEnd significand exponent < places ∧ places < significand + 1 / 2) ∨
    (significand % 2 = 0 ∧
      (places = lowerEnd significand exponent ∨ places = significand + 1 / 2))

section RoundsTo

variable {number : ℚ} {significand : Nat} {exponent : Int}

/-- The lower end of a rounding interval is a quarter to a half below the significand. -/
theorem lowerEnd_bounds (significand : Nat) (exponent : Int) :
    (significand : ℚ) - 1 / 2 ≤ lowerEnd significand exponent ∧
      lowerEnd significand exponent ≤ significand - 1 / 4 := by
  unfold lowerEnd
  split <;> constructor <;> linarith

/-- A number that rounds to a significand lies in the rounding interval of the significand. -/
theorem RoundsTo.bounds (rounds : RoundsTo number significand exponent) :
    lowerEnd significand exponent ≤ number / 2 ^ exponent ∧
      number / 2 ^ exponent ≤ significand + 1 / 2 := by
  have ends := lowerEnd_bounds significand exponent
  rcases rounds with ⟨lower, upper⟩ | ⟨-, equal | equal⟩
  · exact ⟨lower.le, upper.le⟩
  · exact ⟨equal.ge, by linarith⟩
  · exact ⟨by linarith, equal.le⟩

/-- At the last place of the value, the significand is the nearest natural number. -/
theorem RoundsTo.isNearest (rounds : RoundsTo number significand exponent) :
    IsNearest (number / 2 ^ exponent) significand := by
  have ends := lowerEnd_bounds significand exponent
  rcases rounds with ⟨lower, upper⟩ | ⟨even, equal | equal⟩
  · exact .inl ⟨by linarith, upper⟩
  · rcases ends.1.lt_or_eq with narrow | wide
    · exact .inl ⟨by linarith, by linarith⟩
    · exact .inr ⟨even, .inl (equal.trans wide.symm)⟩
  · exact .inr ⟨even, .inr equal⟩

/-- Below a power of two the last place is half as large. -/
theorem RoundsTo.isNearest_below (rounds : RoundsTo number (2 ^ 52) exponent)
    (notLeast : -1074 < exponent) (below : number / 2 ^ exponent < 2 ^ 52) :
    IsNearest (number / 2 ^ (exponent - 1)) (2 ^ 53) := by
  have lower : lowerEnd (2 ^ 52) exponent = 2 ^ 52 - 1 / 4 := by
    rw [lowerEnd, if_pos ⟨rfl, notLeast⟩]
    norm_num
  have double : number / 2 ^ (exponent - 1) = 2 * (number / 2 ^ exponent) := by
    rw [zpow_sub_one₀ two_ne_zero]
    field_simp
  have bound := rounds.bounds.1
  rw [lower] at bound
  rw [double]
  rcases bound.lt_or_eq with inside | atEnd
  · left
    constructor <;> norm_num at * <;> linarith
  · right
    refine ⟨by decide, .inl ?_⟩
    rw [← atEnd]
    norm_num

end RoundsTo

/-! ## The exponent of the last place -/

/-- The exponent to which a number is rounded leaves fifty-three bits, or is the least one. -/
theorem targetExponent_eq (total : Int) :
    Format.binary64.targetExponent total = max (total - 53) (-1074) :=
  rfl

section LeadingBit

variable {number : ℚ} {significand : Nat} {exponent total power : Int}

/-- A power of two is scaled by another. -/
theorem zpow_scale (power exponent : Int) :
    (2 : ℚ) ^ (power + exponent) = 2 ^ power * 2 ^ exponent :=
  zpow_add₀ two_ne_zero power exponent

/-- The leading bit of a number below a power of two, unless it is too small to matter. -/
theorem total_le (below : 2 ^ (total - 1) ≤ number ∨ total ≤ -1073)
    (small : number / 2 ^ exponent < 2 ^ power) (notUnder : -1074 < power + exponent) :
    total ≤ power + exponent := by
  rcases below with leading | tiny
  · rw [div_lt_iff₀ (by positivity), ← zpow_scale] at small
    have := (zpow_lt_zpow_iff_right₀ one_lt_two).mp (leading.trans_lt small)
    omega
  · omega

/-- The leading bit of a number that reaches a power of two. -/
theorem lt_total (above : number < 2 ^ total) (large : (2 : ℚ) ^ power ≤ number / 2 ^ exponent) :
    power + exponent < total := by
  rw [le_div_iff₀ (by positivity), ← zpow_scale] at large
  exact (zpow_lt_zpow_iff_right₀ one_lt_two).mp (large.trans_lt above)

/-- Only a power of two is the value of numbers that have one bit less. -/
theorem RoundsTo.eq_of_short (rounds : RoundsTo number significand exponent)
    (least : 2 ^ 52 ≤ significand) (short : number / 2 ^ exponent < 2 ^ 52) :
    significand = 2 ^ 52 := by
  have near := (lowerEnd_bounds significand exponent).1.trans rounds.bounds.1
  by_contra more
  have next : (2 ^ 52 + 1 : ℚ) ≤ significand := by
    exact_mod_cast Nat.lt_of_le_of_ne least (Ne.symm more)
  linarith

/-- Where a number that rounds to a value is cut off, by the position of its leading bit: at the
last place of the value or, below a power of two, one place lower. -/
theorem targetExponent_cases (areParts : AreParts significand exponent)
    (rounds : RoundsTo number significand exponent) (above : number < 2 ^ total)
    (below : 2 ^ (total - 1) ≤ number ∨ total ≤ -1073) :
    Format.binary64.targetExponent total = exponent ∨
      (significand = 2 ^ 52 ∧ -1074 < exponent ∧ number / 2 ^ exponent < 2 ^ 52 ∧
        Format.binary64.targetExponent total = exponent - 1) := by
  rw [targetExponent_eq]
  obtain ⟨lower, upper⟩ := rounds.bounds
  have near := (lowerEnd_bounds significand exponent).1.trans lower
  have fits : number / 2 ^ exponent < 2 ^ (53 : Int) := by
    have whole : (significand : ℚ) + 1 ≤ 2 ^ 53 := by exact_mod_cast areParts.significand_lt
    norm_num at whole ⊢
    linarith
  cases areParts with
  | subnormal =>
    have := total_le below fits (by decide)
    left
    omega
  | normal least _ notUnder =>
    have top := total_le below fits (by omega)
    by_cases atLeastExponent : exponent = -1074
    · left
      omega
    by_cases full : (2 : ℚ) ^ (52 : Int) ≤ number / 2 ^ exponent
    · have := lt_total above full
      left
      omega
    · have short := not_le.mp full
      have isPower := rounds.eq_of_short least short
      have half : (2 : ℚ) ^ (51 : Int) ≤ number / 2 ^ exponent := by
        rw [isPower] at near
        norm_num at near ⊢
        linarith
      have := lt_total above half
      have := total_le below short (by omega)
      exact .inr ⟨isPower, by omega, short, by omega⟩

end LeadingBit

/-! ## Rounding -/

section Round

variable {mantissa significand : Nat} {exponent place : Int} {accuracy : Accuracy} {number : ℚ}

/-- How exact a mantissa is leaves the mantissa as it is. -/
theorem mantissa_ofMantissaAndAccuracy (mantissa : Nat) (accuracy : Accuracy) :
    (ExtendedMantissa.ofMantissaAndAccuracy mantissa accuracy).mantissa = mantissa := by
  rcases accuracy with _ | order
  · rfl
  · cases order <;> rfl

/-- The leading bit of the significand is that of the number. -/
theorem bounds_of_represents
    (represents : Represents (.ofMantissaAndAccuracy mantissa accuracy) (number / 2 ^ place)) :
    number < 2 ^ totalExponent mantissa place ∧
      (mantissa = 0 ∨ 2 ^ (totalExponent mantissa place - 1) ≤ number) := by
  have unit : (0 : ℚ) < 2 ^ place := by positivity
  obtain ⟨lower, upper⟩ := represents.bounds
  rw [mantissa_ofMantissaAndAccuracy] at lower upper
  have total : totalExponent mantissa place = ((mantissa.log2 + 1 : Nat) : Int) + place := rfl
  constructor
  · have next : (mantissa + 1 : ℚ) ≤ 2 ^ (mantissa.log2 + 1) := by
      exact_mod_cast Nat.lt_log2_self
    rw [total, zpow_add₀ two_ne_zero, zpow_natCast, ← div_lt_iff₀ unit]
    exact upper.trans_le next
  · refine or_iff_not_imp_left.mpr fun notZero => ?_
    have leading : (2 ^ mantissa.log2 : ℚ) ≤ mantissa := by
      exact_mod_cast Nat.log2_self_le notZero
    have shifted : totalExponent mantissa place - 1 = (mantissa.log2 : Int) + place := by
      omega
    rw [shifted, zpow_add₀ two_ne_zero, zpow_natCast, ← le_div_iff₀ unit]
    exact leading.trans lower

/-- Shifting to a higher place. -/
theorem shiftToExponent_eq {target : Int} (fine : place ≤ target)
    (represents : Represents (.ofMantissaAndAccuracy mantissa accuracy) (number / 2 ^ place)) :
    (shiftToExponent mantissa place accuracy target).2 = target ∧
      Represents (shiftToExponent mantissa place accuracy target).1 (number / 2 ^ target) := by
  have reached : place + ((target - place).toNat : Int) = target := by omega
  have scale : (2 : ℚ) ^ target = 2 ^ place * 2 ^ (target - place).toNat := by
    rw [← zpow_natCast, ← zpow_add₀ two_ne_zero, reached]
  refine ⟨reached, ?_⟩
  rw [scale, ← div_div]
  exact represents.shiftRight _

/-- The parts of a value need no shift. -/
theorem shiftToTargetExponent_of_areParts (areParts : AreParts significand exponent) :
    shiftToTargetExponent .binary64 significand exponent .exact =
      (.ofMantissaAndAccuracy significand .exact, exponent) := by
  have short : significand.log2 < 53 :=
    (Nat.log2_lt areParts.significand_pos.ne').mpr areParts.significand_lt
  have notUnder := areParts.exponent_bounds.1
  have none : (Format.binary64.targetExponent (totalExponent significand exponent) -
      exponent).toNat = 0 := by
    rw [targetExponent_eq, totalExponent]
    omega
  simp only [shiftToTargetExponent, shiftToExponent, none, Nat.cast_zero, add_zero]
  rfl

/-- A significand that rounding made one bit too long is shifted once. -/
theorem shiftToTargetExponent_carry (notLeast : -1074 < exponent) :
    shiftToTargetExponent .binary64 (2 ^ 53) (exponent - 1) .exact =
      (.ofMantissaAndAccuracy (2 ^ 52) .exact, exponent) := by
  have length : Nat.log2 (2 ^ 53) = 53 := Nat.log2_two_pow
  have once : (Format.binary64.targetExponent (totalExponent (2 ^ 53) (exponent - 1)) -
      (exponent - 1)).toNat = 1 := by
    rw [targetExponent_eq, totalExponent, length]
    omega
  simp only [shiftToTargetExponent, shiftToExponent, once, Nat.cast_one, sub_add_cancel]
  rfl

/-- Whatever number is rounded, the result has the parts of the value to which it rounds. -/
theorem roundWithAccuracy_eq (areParts : AreParts significand exponent)
    (rounds : RoundsTo number significand exponent)
    (represents : Represents (.ofMantissaAndAccuracy mantissa accuracy) (number / 2 ^ place))
    (fine : place ≤ Format.binary64.targetExponent (totalExponent mantissa place))
    (sign : Sign) :
    roundWithAccuracy .binary64 sign mantissa place accuracy =
      .finite sign significand exponent areParts.significand_pos := by
  obtain ⟨above, leading⟩ := bounds_of_represents represents
  obtain ⟨reached, shifted⟩ := shiftToExponent_eq fine represents
  have again : shiftToTargetExponent .binary64
      (shiftToTargetExponent .binary64 mantissa place accuracy).1.roundedMantissa
      (shiftToTargetExponent .binary64 mantissa place accuracy).2 .exact =
        (.ofMantissaAndAccuracy significand .exact, exponent) := by
    have below : 2 ^ (totalExponent mantissa place - 1) ≤ number ∨
        totalExponent mantissa place ≤ -1073 := by
      rcases leading with rfl | leading
      · right
        have total : totalExponent 0 place = place + 1 := by
          rw [totalExponent, Nat.log2_zero]
          omega
        rw [targetExponent_eq, total] at fine
        omega
      · exact .inl leading
    rw [shiftToTargetExponent.eq_def .binary64 mantissa]
    dsimp only
    rw [reached]
    rcases targetExponent_cases areParts rounds above below with
      same | ⟨rfl, notLeast, short, lower⟩
    · rw [same] at shifted ⊢
      rw [shifted.roundedMantissa_eq rounds.isNearest]
      exact shiftToTargetExponent_of_areParts areParts
    · rw [lower] at shifted ⊢
      rw [shifted.roundedMantissa_eq (rounds.isNearest_below notLeast short)]
      exact shiftToTargetExponent_carry notLeast
  have filled : significand ≠ 0 := areParts.significand_pos.ne'
  simp only [roundWithAccuracy, again, mantissa_ofMantissaAndAccuracy, dif_neg filled]

end Round

end Spreadsheet.Binary64
