import Spreadsheet.Decimal.Shortest
import Spreadsheet.Proofs.Binary64.Rounding

/-!
# The shortest decimal rounds to its value

The search looks at grid points in whole numbers, on a scale that a grid and the quarters of a
last place have in common. Divided by that scale its interval is the one of rounding to binary64.
A point is only taken if it lies there, and if no grid has one, the value itself is
written, so the decimal always rounds to the value that is written.
-/

namespace Spreadsheet.Decimal

/-- The number that a decimal is. -/
def Scaled.toRat (decimal : Scaled) : ℚ :=
  decimal.digits * 10 ^ decimal.exponent

namespace Dyadic

variable {value : Dyadic} {power : Int} {multiple : Nat}

/-- A quarter of a gap is not empty on the common scale. -/
theorem quarterStep_pos (value : Dyadic) (power : Int) : 0 < value.quarterStep power :=
  Nat.mul_pos (Nat.pow_pos two_pos) (Nat.pow_pos (by decide))

/-- A power as a quotient of two whole powers. -/
theorem zpow_eq_div {base : ℚ} (notZero : base ≠ 0) (power : Int) :
    base ^ power = base ^ power.toNat / base ^ (-power).toNat := by
  rw [← zpow_natCast, ← zpow_natCast, ← zpow_sub₀ notZero]
  congr 1
  omega

/-- A grid point, counted in quarters of the last place. -/
theorem point_div_quarterStep (value : Dyadic) (power : Int) (multiple : Nat) :
    (multiple * value.gridStep power : ℚ) / value.quarterStep power =
      4 * (multiple * 10 ^ power / 2 ^ value.exponent) := by
  have quarter : (2 : ℚ) ^ value.exponent = 4 * 2 ^ (value.exponent - 2) := by
    rw [zpow_sub₀ two_ne_zero]
    field_simp
    norm_num
  have flipped : (2 - value.exponent).toNat = (-(value.exponent - 2)).toNat := by omega
  rw [gridStep, quarterStep, quarter, zpow_eq_div (by norm_num) power,
    zpow_eq_div two_ne_zero (value.exponent - 2), flipped]
  simp only [Nat.pow_eq]
  push_cast
  field_simp

/-- The lower end of the interval, counted in quarters of the last place. -/
theorem lowerEnd_eq (positive : 0 < value.significand) :
    (value.lowerEnd : ℚ) = 4 * Binary64.lowerEnd value.significand value.exponent := by
  have narrow : value.narrowBelow = true ↔
      value.significand = 2 ^ 52 ∧ -1074 < value.exponent := by
    simp [narrowBelow]
  unfold lowerEnd Binary64.lowerEnd
  by_cases isNarrow : value.narrowBelow = true
  · rw [if_pos isNarrow, if_pos (narrow.mp isNarrow), Nat.cast_sub (by omega)]
    push_cast
    ring
  · rw [if_neg isNarrow, if_neg (mt narrow.mpr isNarrow), Nat.cast_sub (by omega)]
    push_cast
    ring

/-- A point in the interval of the search is a number that rounds to the value. -/
theorem roundsTo_of_admits (positive : 0 < value.significand)
    (admitted : value.admits power multiple = true) :
    Binary64.RoundsTo (multiple * 10 ^ power) value.significand value.exponent := by
  have step : (0 : ℚ) < value.quarterStep power := by exact_mod_cast value.quarterStep_pos power
  have point := value.point_div_quarterStep power multiple
  have lower := lowerEnd_eq positive
  have upper : (value.upperEnd : ℚ) = 4 * (value.significand + 1 / 2) := by
    rw [upperEnd]
    push_cast
    ring
  rw [div_eq_iff step.ne'] at point
  simp only [admits, endsIncluded, Bool.or_eq_true, Bool.and_eq_true, decide_eq_true_eq,
    beq_iff_eq] at admitted
  rcases admitted with ⟨above, below⟩ | ⟨even, atLower | atUpper⟩
  · have above' : (value.lowerEnd * value.quarterStep power : ℚ) <
        multiple * value.gridStep power := by exact_mod_cast above
    have below' : (multiple * value.gridStep power : ℚ) <
        value.upperEnd * value.quarterStep power := by exact_mod_cast below
    rw [point, lower, mul_lt_mul_iff_of_pos_right step] at above'
    rw [point, upper, mul_lt_mul_iff_of_pos_right step] at below'
    exact .inl ⟨by linarith, by linarith⟩
  · have equal : (value.lowerEnd * value.quarterStep power : ℚ) =
        multiple * value.gridStep power := by exact_mod_cast atLower
    rw [point, lower, mul_left_inj' step.ne'] at equal
    exact .inr ⟨even, .inl (by linarith)⟩
  · have equal : (multiple * value.gridStep power : ℚ) =
        value.upperEnd * value.quarterStep power := by exact_mod_cast atUpper
    rw [point, upper, mul_left_inj' step.ne'] at equal
    exact .inr ⟨even, .inr (by linarith)⟩

/-- What the search finds on a grid lies in the interval. -/
theorem admits_of_nearestOn {tie : Tie} (found : value.nearestOn tie power = some multiple) :
    value.admits power multiple = true := by
  unfold nearestOn at found
  dsimp only at found
  split at found
  · cases found
  · rename_i below _
    cases found
    exact below
  · rename_i _ above
    cases found
    exact above
  · rename_i below above
    split at found <;> cases found
    · exact below
    · exact above
    · exact above
    · split
      · exact below
      · exact above

/-- All the digits of a value are the value. -/
theorem toRat_exactly (value : Dyadic) :
    value.exactly.toRat = value.significand * 2 ^ value.exponent := by
  unfold exactly
  split
  · rename_i whole
    have power : (2 : ℚ) ^ value.exponent = 2 ^ value.exponent.toNat := by
      rw [← zpow_natCast, Int.toNat_of_nonneg whole]
    rw [Scaled.toRat, power, zpow_zero, mul_one, Nat.pow_eq]
    push_cast
    rfl
  · rename_i fraction
    have power (base : ℚ) : base ^ value.exponent = (base ^ (-value.exponent).toNat)⁻¹ := by
      rw [← zpow_natCast, Int.toNat_of_nonneg (by omega), zpow_neg, inv_inv]
    have ten : (10 : ℚ) = 5 * 2 := by norm_num
    rw [Scaled.toRat, power, power, ten, mul_pow, Nat.pow_eq]
    push_cast
    field_simp

/-- The shortest decimal of a value is a number that rounds to the value. -/
theorem roundsTo_shortest (value : Dyadic) (positive : 0 < value.significand) (tie : Tie) :
    Binary64.RoundsTo (value.shortest tie).toRat value.significand value.exponent := by
  unfold shortest
  dsimp only
  cases search : (List.range 24).findSome? fun finer : Nat =>
      (value.nearestOn tie (value.coarsestPower - finer)).map fun digits =>
        (⟨digits, value.coarsestPower - finer⟩ : Scaled) with
  | some decimal =>
    obtain ⟨finer, -, found⟩ := List.exists_of_findSome?_eq_some search
    obtain ⟨multiple, nearest, rfl⟩ := Option.map_eq_some_iff.mp found
    exact roundsTo_of_admits positive (admits_of_nearestOn nearest)
  | none =>
    have places : value.exactly.toRat / 2 ^ value.exponent = value.significand := by
      rw [toRat_exactly, mul_div_cancel_right₀ _ (by positivity)]
    have ends := Binary64.lowerEnd_bounds value.significand value.exponent
    refine .inl ?_
    rw [Option.getD_none, places]
    exact ⟨by linarith, by linarith⟩

end Dyadic

end Spreadsheet.Decimal
