import Mathlib.Data.List.Induction
import Mathlib.Data.List.TakeWhile
import Spreadsheet.Decimal.Digits

/-!
# Numbers and their digits

The digits that are written for a number are digits, there is at least one, and the
first is no zero unless the number is. Writing what a run of digits stands for gives
the run without its leading zeros, so a positive number has exactly one run that starts
with another digit than zero.
-/

namespace Spreadsheet.Decimal

/-- Digits by their code points. -/
theorem isDigit_iff {character : Char} :
    character.isDigit = true ↔ 48 ≤ character.toNat ∧ character.toNat ≤ 57 := by
  simp only [Char.isDigit, Bool.and_eq_true, decide_eq_true_eq, ge_iff_le, UInt32.le_iff_toNat_le]
  exact Iff.rfl

/-- A character is a digit exactly if it is written for a number below ten. -/
theorem isDigit_iff_exists {character : Char} :
    character.isDigit = true ↔ ∃ digit < 10, digitCharacter digit = character := by
  have written : ∀ digit : Fin 10, (digitCharacter digit).isDigit = true := by decide
  constructor
  · intro isDigit
    obtain ⟨lower, upper⟩ := isDigit_iff.mp isDigit
    refine ⟨character.toNat - 48, by omega, ?_⟩
    have shifted : '0'.toNat + (character.toNat - 48) = character.toNat := by
      change 48 + (character.toNat - 48) = character.toNat
      omega
    rw [digitCharacter, shifted, Char.ofNat_toNat]
  · rintro ⟨digit, small, rfl⟩
    exact written ⟨digit, small⟩

/-- A digit is no letter. -/
theorem not_isAlpha_of_isDigit {character : Char} (isDigit : character.isDigit = true) :
    character.isAlpha = false := by
  have table : ∀ digit : Fin 10, (digitCharacter digit).isAlpha = false := by decide
  obtain ⟨digit, small, rfl⟩ := isDigit_iff_exists.mp isDigit
  exact table ⟨digit, small⟩

/-- A digit stands for less than ten. -/
theorem digitValue_lt {digit : Char} (isDigit : digit.isDigit = true) : digitValue digit < 10 := by
  obtain ⟨number, small, rfl⟩ := isDigit_iff_exists.mp isDigit
  rwa [digitValue_digitCharacter small]

/-- A digit is written for the number that it stands for. -/
theorem digitCharacter_digitValue {digit : Char} (isDigit : digit.isDigit = true) :
    digitCharacter (digitValue digit) = digit := by
  obtain ⟨number, small, rfl⟩ := isDigit_iff_exists.mp isDigit
  rw [digitValue_digitCharacter small]

/-- Only one digit stands for zero. -/
theorem digitValue_eq_zero_iff {digit : Char} (isDigit : digit.isDigit = true) :
    digitValue digit = 0 ↔ digit = '0' := by
  constructor
  · intro zero
    rw [← digitCharacter_digitValue isDigit, zero]
    rfl
  · rintro rfl
    rfl

/-! ## What is written -/

/-- A number is written with digits only. -/
theorem isDigit_of_mem_digits {number : Nat} {character : Char}
    (member : character ∈ digits number) : character.isDigit = true := by
  fun_induction digits number with
  | case1 number small =>
    rw [List.mem_singleton.mp member]
    exact isDigit_iff_exists.mpr ⟨number, small, rfl⟩
  | case2 number large inductionHypothesis =>
    rcases List.mem_append.mp member with before | last
    · exact inductionHypothesis before
    · rw [List.mem_singleton.mp last]
      exact isDigit_iff_exists.mpr ⟨number % 10, Nat.mod_lt _ (by decide), rfl⟩

/-- Every number has a digit. -/
theorem digits_ne_nil (number : Nat) : digits number ≠ [] := by
  fun_cases digits number <;> simp

/-! ## Leading zeros -/

/-- A run of digits stands for zero exactly if it has no other digit. -/
theorem value_eq_zero_iff {run : List Char} (areDigits : ∀ digit ∈ run, digit.isDigit = true) :
    value run = 0 ↔ ∀ digit ∈ run, digit = '0' := by
  induction run using List.reverseRecOn with
  | nil => exact ⟨fun _ => List.forall_mem_nil _, fun _ => rfl⟩
  | append_singleton run digit inductionHypothesis =>
    simp only [List.mem_append, List.mem_singleton, or_imp, forall_and, forall_eq] at areDigits ⊢
    rw [value_append_singleton, ← inductionHypothesis areDigits.1,
      ← digitValue_eq_zero_iff areDigits.2]
    omega

/-- Reading a run of digits and writing the number takes the leading zeros away. -/
theorem digits_value {run : List Char} (areDigits : ∀ digit ∈ run, digit.isDigit = true)
    (positive : 0 < value run) : digits (value run) = run.dropWhile (· == '0') := by
  induction run using List.reverseRecOn with
  | nil => cases positive
  | append_singleton run digit inductionHypothesis =>
    simp only [List.mem_append, List.mem_singleton, or_imp, forall_and, forall_eq] at areDigits
    obtain ⟨before, isDigit⟩ := areDigits
    have small := digitValue_lt isDigit
    rw [value_append_singleton] at positive ⊢
    rw [List.dropWhile_append]
    by_cases zero : value run = 0
    · -- Only zeros stand before the digit, and it is the whole number.
      have zeros : run.dropWhile (· == '0') = [] := by
        simpa [List.dropWhile_eq_nil_iff] using (value_eq_zero_iff before).mp zero
      have notZero : digit ≠ '0' := fun equal => by
        rw [zero, (digitValue_eq_zero_iff isDigit).mpr equal] at positive
        omega
      rw [zero, zeros, digits, if_pos (by omega)]
      simp [digitCharacter_digitValue isDigit, notZero]
    · have filled : run.dropWhile (· == '0') ≠ [] := by
        rw [← inductionHypothesis before (Nat.pos_of_ne_zero zero)]
        exact digits_ne_nil _
      have quotient : (10 * value run + digitValue digit) / 10 = value run := by omega
      have remainder : (10 * value run + digitValue digit) % 10 = digitValue digit := by omega
      rw [digits, if_neg (by omega), quotient, remainder,
        inductionHypothesis before (Nat.pos_of_ne_zero zero), digitCharacter_digitValue isDigit,
        if_neg (by simpa using filled)]

end Spreadsheet.Decimal
