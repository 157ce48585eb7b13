import Spreadsheet.Proofs.Address.Grammar

/-!
# Labels are read within 32-bit words

Here a label is read once more, with every number in a word of 32 bits and the column in
one of 16. A step whose exact result does not fit its word gives `none`, and `none` is
never caught, except for the row number: its digits come in any length, and a number that
does not fit is a malformed row. The reading never ends in `none` and always agrees
with `Address.ofLabel`: the bound on the columns is looked at after every letter, so the
number is small before the next one, and nothing is taken away from zero.
-/

namespace Spreadsheet.Address.Words

/-- The product of two words, if it is a word. -/
def multiply? (left right : UInt32) : Option UInt32 :=
  if left.toNat * right.toNat < UInt32.size then some (left * right) else none

/-- The sum of two words, if it is a word. -/
def add? (left right : UInt32) : Option UInt32 :=
  if left.toNat + right.toNat < UInt32.size then some (left + right) else none

/-- The difference of two words, if it is a word. -/
def subtract? (left right : UInt32) : Option UInt32 :=
  if right.toNat ≤ left.toNat then some (left - right) else none

/-- The column number after one more letter. -/
def extend (number : UInt32) (letter : Char) : Option (Except LabelError UInt32) :=
  if letter.isAlpha then do
    let shifted ← multiply? number 26
    let offset ← subtract? letter.toUpper.val 'A'.val
    let place ← add? offset 1
    let extended ← add? shifted place
    if extended.toNat ≤ columnLimit then
      return .ok extended
    else
      let column ← subtract? extended 1
      return .error (.columnOutOfBounds column.toNat)
  else
    return .error (.notALetter letter)

/-- The column number after a run of letters. -/
def extendAll (number : UInt32) : List Char → Option (Except LabelError UInt32)
  | [] => some (.ok number)
  | letter :: rest =>
    match extend number letter with
    | none => none
    | some (.error refused) => some (.error refused)
    | some (.ok extended) => extendAll extended rest

/-- The column that a run of letters names. -/
def ofLetters (letters : List Char) : Option (Except LabelError UInt16) :=
  if letters.isEmpty then some (.error .noLetters)
  else
    match extendAll 0 letters with
    | none => none
    | some (.error refused) => some (.error refused)
    | some (.ok number) => (subtract? number 1).map fun column => .ok column.toUInt16

/-- The number after one more digit. -/
def appendDigit? (number : UInt32) (digit : Char) : Option UInt32 := do
  let shifted ← multiply? number 10
  let unit ← subtract? digit.val '0'.val
  add? shifted unit

/-- The row that the digits of a label name. -/
def rowOfDigits (label : String) (digits : List Char) : Option (Except LabelError UInt32) :=
  if digits.isEmpty then some (.error (.noRow label))
  else if !digits.all Char.isDigit then some (.error (.badRow label))
  else
    match digits.foldlM appendDigit? 0 with
    | none => some (.error (.badRow label))
    | some number =>
      if number = 0 then some (.error (.rowZero label))
      else
        (subtract? number 1).map fun row =>
          if rowLimit ≤ row.toNat then .error (.rowOutOfBounds row.toNat) else .ok row

/-- The address that a label names. -/
def ofLabel (label : String) : Option (Except LabelError Address) :=
  let letters := label.toList.takeWhile Char.isAlpha
  let digits := label.toList.dropWhile Char.isAlpha
  if label.toList.isEmpty then some (.error .empty)
  else if letters.isEmpty then some (.error (.noColumn label))
  else
    match ofLetters letters with
    | none => none
    | some (.error refused) => some (.error refused)
    | some (.ok column) =>
      match rowOfDigits label digits with
      | none => none
      | some (.error refused) => some (.error refused)
      | some (.ok row) => some (.ok ⟨row.toNat, column.toNat⟩)

/-! ## Exact words -/

section Arithmetic

variable {left : Nat} (right : Nat)

/-- On words a product is that of the numbers, as long as it fits. -/
theorem multiply?_ofNat (leftFits : left < UInt32.size) (rightFits : right < UInt32.size) :
    multiply? (.ofNat left) (.ofNat right) =
      if left * right < UInt32.size then some (.ofNat (left * right)) else none := by
  rw [multiply?, UInt32.toNat_ofNat_of_lt' leftFits, UInt32.toNat_ofNat_of_lt' rightFits,
    UInt32.ofNat_mul]

/-- On words a sum is that of the numbers, as long as it fits. -/
theorem add?_ofNat (leftFits : left < UInt32.size) (rightFits : right < UInt32.size) :
    add? (.ofNat left) (.ofNat right) =
      if left + right < UInt32.size then some (.ofNat (left + right)) else none := by
  rw [add?, UInt32.toNat_ofNat_of_lt' leftFits, UInt32.toNat_ofNat_of_lt' rightFits,
    UInt32.ofNat_add]

/-- On words a difference is that of the numbers, as long as it is not negative. -/
theorem subtract?_ofNat (leftFits : left < UInt32.size) (noLess : right ≤ left) :
    subtract? (.ofNat left) (.ofNat right) = some (.ofNat (left - right)) := by
  have rightFits := Nat.lt_of_le_of_lt noLess leftFits
  rw [subtract?, UInt32.toNat_ofNat_of_lt' leftFits, UInt32.toNat_ofNat_of_lt' rightFits,
    if_pos noLess, UInt32.ofNat_sub noLess]

end Arithmetic

/-! ## Columns -/

/-- One more letter does not overflow a column number within its limit. -/
theorem extend_ofNat {number : Nat} (within : number ≤ columnLimit) (letter : Char) :
    extend (.ofNat number) letter = some ((Column.extend number letter).map UInt32.ofNat) := by
  unfold extend Column.extend
  split
  · rename_i isAlpha
    obtain ⟨digit, small, value, capital⟩ := Column.exists_letterValue isAlpha
    have code : letter.toUpper.val = UInt32.ofNat ('A'.toNat + digit) := by
      have table : ∀ digit : Fin 26,
          (Column.letter digit).val = UInt32.ofNat ('A'.toNat + digit) := by decide
      rw [capital]
      exact table ⟨digit, small⟩
    have size : UInt32.size = 4294967296 := rfl
    have limit : columnLimit = 16384 := rfl
    have base : 'A'.toNat = 65 := rfl
    have shifted : multiply? (.ofNat number) 26 = some (.ofNat (number * 26)) :=
      (multiply?_ofNat 26 (by omega) (by decide)).trans (if_pos (by omega))
    have offset : subtract? letter.toUpper.val 'A'.val = some (.ofNat digit) := by
      rw [code]
      exact (subtract?_ofNat _ (by omega) (Nat.le_add_right _ _)).trans
        (by rw [Nat.add_sub_cancel_left])
    have place : add? (.ofNat digit) 1 = some (.ofNat (digit + 1)) :=
      (add?_ofNat 1 (by omega) (by decide)).trans (if_pos (by omega))
    have extended : add? (.ofNat (number * 26)) (.ofNat (digit + 1)) =
        some (.ofNat (number * 26 + (digit + 1))) :=
      (add?_ofNat _ (by omega) (by omega)).trans (if_pos (by omega))
    have fits : number * 26 + (digit + 1) < UInt32.size := by omega
    simp only [shifted, offset, place, extended, value, Option.bind_eq_bind, Option.bind_some,
      UInt32.toNat_ofNat_of_lt' fits]
    split
    · rfl
    · have column : subtract? (.ofNat (number * 26 + (digit + 1))) 1 =
          some (.ofNat (number * 26 + (digit + 1) - 1)) :=
        subtract?_ofNat 1 fits (by omega)
      rw [column, Option.bind_some, UInt32.toNat_ofNat_of_lt' (by omega)]
      rfl
  · rfl

/-- Letters do not overflow a column number: the limit ends the reading before. -/
theorem extendAll_ofNat {number : Nat} (within : number ≤ columnLimit) (letters : List Char) :
    extendAll (.ofNat number) letters =
      some ((letters.foldlM Column.extend number).map UInt32.ofNat) := by
  induction letters generalizing number with
  | nil => rfl
  | cons letter rest inductionHypothesis =>
    rw [extendAll, extend_ofNat within, List.foldlM_cons]
    cases extending : Column.extend number letter with
    | error refused => rfl
    | ok extended => exact inductionHypothesis (Column.extend_eq_ok_iff.mp extending).2.2

/-- Columns are read from letters in words as they are in numbers. -/
theorem ofLetters_eq (letters : List Char) :
    ofLetters letters = some ((Column.ofLetters letters).map UInt16.ofNat) := by
  unfold ofLetters Column.ofLetters
  split
  · rfl
  · rename_i filled
    have read := extendAll_ofNat (Nat.zero_le columnLimit) letters
    rw [show (0 : UInt32) = UInt32.ofNat 0 from rfl, read]
    cases reading : letters.foldlM Column.extend 0 with
    | error refused => rfl
    | ok number =>
      obtain ⟨areLetters, rfl, within⟩ :=
        (Column.foldlM_extend_eq_ok_iff (Nat.zero_le columnLimit)).mp reading
      have notEmpty : letters ≠ [] := fun empty => filled (List.isEmpty_iff.mpr empty)
      have positive := Column.number_pos notEmpty areLetters
      have size : UInt32.size = 4294967296 := rfl
      have limit : columnLimit = 16384 := rfl
      have column := subtract?_ofNat 1
        (by omega : 0 * 26 ^ letters.length + Column.number letters < UInt32.size) (by omega)
      simp only [Except.map, show (1 : UInt32) = UInt32.ofNat 1 from rfl, column, Option.map_some,
        UInt32.toUInt16_ofNat']

/-! ## Rows -/

/-- One more digit of a row is taken as long as the number fits a word. -/
theorem appendDigit?_ofNat {number : Nat} (fits : number < UInt32.size) {digit : Char}
    (isDigit : digit.isDigit = true) :
    appendDigit? (.ofNat number) digit =
      if 10 * number + Decimal.digitValue digit < UInt32.size then
        some (.ofNat (10 * number + Decimal.digitValue digit))
      else none := by
  have small := Decimal.digitValue_lt isDigit
  have size : UInt32.size = 4294967296 := rfl
  have code : digit.val = UInt32.ofNat digit.toNat := (UInt32.ofNat_toNat).symm
  have bounds := Decimal.isDigit_iff.mp isDigit
  have unit : subtract? digit.val '0'.val = some (.ofNat (Decimal.digitValue digit)) := by
    rw [code]
    exact subtract?_ofNat _ (by omega) bounds.1
  have shifted : multiply? (.ofNat number) 10 =
      if number * 10 < UInt32.size then some (.ofNat (number * 10)) else none :=
    multiply?_ofNat 10 fits (by decide)
  simp only [appendDigit?, shifted, unit, Option.bind_eq_bind, Option.bind_some]
  split
  · rename_i within
    rw [Option.bind_some, add?_ofNat _ within (by omega), Nat.mul_comm]
  · rw [Option.bind_none, if_neg (by omega)]

/-- More digits make a number no smaller. -/
theorem le_foldl_digits (number : Nat) (digits : List Char) :
    number ≤ digits.foldl (fun number digit => 10 * number + Decimal.digitValue digit) number := by
  induction digits generalizing number with
  | nil => exact Nat.le_refl _
  | cons digit rest inductionHypothesis =>
    rw [List.foldl_cons]
    exact Nat.le_trans (by omega) (inductionHypothesis _)

/-- Digits are read in words exactly as long as the number fits. -/
theorem foldlM_appendDigit? {number : Nat} (fits : number < UInt32.size) {digits : List Char}
    (areDigits : ∀ digit ∈ digits, digit.isDigit = true) :
    digits.foldlM appendDigit? (.ofNat number) =
      let value := digits.foldl (fun number digit => 10 * number + Decimal.digitValue digit) number
      if value < UInt32.size then some (.ofNat value) else none := by
  induction digits generalizing number with
  | nil => exact (if_pos fits).symm
  | cons digit rest inductionHypothesis =>
    obtain ⟨isDigit, restAreDigits⟩ := List.forall_mem_cons.mp areDigits
    rw [List.foldlM_cons, appendDigit?_ofNat fits isDigit, List.foldl_cons]
    split
    · rename_i stillFits
      exact inductionHypothesis stillFits restAreDigits
    · rename_i beyond
      -- The number only grows, so it does not fit in the end either.
      have grows := le_foldl_digits (10 * number + Decimal.digitValue digit) rest
      exact (if_neg (by omega)).symm

/-- Rows are read from digits in words as they are in numbers; too many digits are out of bounds. -/
theorem rowOfDigits_eq (label : String) (digits : List Char) :
    rowOfDigits label digits =
      some ((Address.rowOfDigits label digits).map UInt32.ofNat) := by
  unfold rowOfDigits Address.rowOfDigits
  split
  · rfl
  split
  · rfl
  rename_i notOther
  have areDigits : ∀ digit ∈ digits, digit.isDigit = true := by
    simpa [List.all_eq_true] using notOther
  have read := foldlM_appendDigit? (by decide : 0 < UInt32.size) areDigits
  have limit : rowNumberLimit = UInt32.size := rfl
  have rows : rowLimit = 1048576 := rfl
  dsimp only at read ⊢
  rw [show (0 : UInt32) = UInt32.ofNat 0 from rfl, read]
  change (match (if Decimal.value digits < UInt32.size then
    some (UInt32.ofNat (Decimal.value digits)) else none) with | none => _ | some number => _) = _
  by_cases fits : Decimal.value digits < UInt32.size
  · rw [if_pos fits, if_neg (by omega : ¬ rowNumberLimit ≤ Decimal.value digits)]
    by_cases zero : Decimal.value digits = 0
    · rw [zero]
      rfl
    · have notZero : UInt32.ofNat (Decimal.value digits) ≠ UInt32.ofNat 0 := by
        intro equal
        have same := congrArg UInt32.toNat equal
        rw [UInt32.toNat_ofNat_of_lt' fits] at same
        exact zero same
      have row := subtract?_ofNat 1 fits (by omega)
      dsimp only
      rw [if_neg notZero, if_neg zero, show (1 : UInt32) = UInt32.ofNat 1 from rfl, row,
        Option.map_some, UInt32.toNat_ofNat_of_lt' (by omega)]
      split <;> rfl
  · rw [if_neg fits, if_pos (by omega : rowNumberLimit ≤ Decimal.value digits)]
    rfl

/-! ## Labels -/

/-- No computation leaves its word, and the label is read as with unbounded numbers. -/
theorem ofLabel_eq (label : String) : ofLabel label = some (Address.ofLabel label) := by
  unfold ofLabel Address.ofLabel
  dsimp only
  split
  · rfl
  split
  · rfl
  rw [ofLetters_eq]
  cases letters : Column.ofLetters (label.toList.takeWhile Char.isAlpha) with
  | error refused => rfl
  | ok column =>
    have columnFits : column < UInt16.size :=
      Nat.lt_trans (Column.ofLetters_eq_ok_iff.mp letters).2.2.2 (by decide)
    simp only [Except.map]
    rw [rowOfDigits_eq]
    cases digits : Address.rowOfDigits label (label.toList.dropWhile Char.isAlpha) with
    | error refused => rfl
    | ok row =>
      have rowFits : row < UInt32.size :=
        Nat.lt_trans (rowOfDigits_eq_ok_iff.mp digits).2.2.2 (by decide)
      simp only [Except.map, UInt32.toNat_ofNat_of_lt' rowFits,
        UInt16.toNat_ofNat_of_lt' columnFits]
      rfl

end Spreadsheet.Address.Words
