/-!
# Whole numbers in decimal

`Decimal.value` reads a run of ASCII digits and `Decimal.digits` writes a whole
number without leading zeros; reading undoes writing.
-/

namespace Spreadsheet.Decimal

/-- The number that a decimal digit stands for. -/
def digitValue (digit : Char) : Nat :=
  digit.toNat - '0'.toNat

/-- The character of a decimal digit below ten. -/
def digitCharacter (digit : Nat) : Char :=
  Char.ofNat ('0'.toNat + digit)

/-- The number that a run of decimal digits stands for; the empty run stands for zero. -/
def value (run : List Char) : Nat :=
  run.foldl (fun number digit => 10 * number + digitValue digit) 0

/-- The decimal digits of a whole number, the leading digit first. -/
def digits (number : Nat) : List Char :=
  if number < 10 then [digitCharacter number]
  else digits (number / 10) ++ [digitCharacter (number % 10)]

/-- A digit below ten is read back from its character. -/
theorem digitValue_digitCharacter {digit : Nat} (small : digit < 10) :
    digitValue (digitCharacter digit) = digit := by
  have cases : ∀ digit : Fin 10, digitValue (digitCharacter digit) = digit := by decide
  exact cases ⟨digit, small⟩

/-- A last digit shifts the number read so far by one place. -/
theorem value_append_singleton (run : List Char) (digit : Char) :
    value (run ++ [digit]) = 10 * value run + digitValue digit := by
  simp [value]

/-- Reading the digits of a number gives the number. -/
theorem value_digits (number : Nat) : value (digits number) = number := by
  fun_induction digits number with
  | case1 number small => simp [value, digitValue_digitCharacter small]
  | case2 number large hypothesis =>
    rw [value_append_singleton, hypothesis, digitValue_digitCharacter (by omega)]
    omega

end Spreadsheet.Decimal
