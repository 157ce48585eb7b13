import Spreadsheet.Address.Label
import Spreadsheet.Proofs.Address.Column
import Spreadsheet.Proofs.Decimal.Digits
import Spreadsheet.Proofs.Text.Spans

/-!
# The grammar of cell labels

A text is split where its leading letters end, and there is no other way to see it as
letters followed by digits. Reading a label therefore comes down to two conditions: the
letters have a number that is a column of the sheet, and the digits one that is a row.
-/

namespace Spreadsheet.Address

/-- Letters and digits that together name a cell of the sheet. -/
structure SpellCell (letters digits : List Char) : Prop where
  letters_ne_nil : letters ≠ []
  areLetters : ∀ letter ∈ letters, letter.isAlpha = true
  digits_ne_nil : digits ≠ []
  areDigits : ∀ digit ∈ digits, digit.isDigit = true
  column_le : Column.number letters ≤ columnLimit
  row_pos : 1 ≤ Decimal.value digits
  row_le : Decimal.value digits ≤ rowLimit

/-- The leading letters of letters followed by digits are all its letters. -/
theorem split_append {letters digits : List Char}
    (areLetters : ∀ letter ∈ letters, letter.isAlpha = true)
    (areDigits : ∀ digit ∈ digits, digit.isDigit = true) :
    (letters ++ digits).takeWhile Char.isAlpha = letters ∧
      (letters ++ digits).dropWhile Char.isAlpha = digits := by
  have stops : Text.StopsAt Char.isAlpha digits := fun digit member =>
    Decimal.not_isAlpha_of_isDigit (areDigits digit (List.mem_of_mem_head? member))
  exact ⟨Text.takeWhile_append areLetters stops, Text.dropWhile_append areLetters stops⟩

/-- Digits name a row exactly if their number, counted from one, is one of the sheet. -/
theorem rowOfDigits_eq_ok_iff {label : String} {digits : List Char} {row : Nat} :
    rowOfDigits label digits = .ok row ↔
      digits ≠ [] ∧ (∀ digit ∈ digits, digit.isDigit = true) ∧
        Decimal.value digits = row + 1 ∧ row < rowLimit := by
  have rows : rowLimit < rowNumberLimit := by decide
  unfold rowOfDigits
  split
  · rename_i empty
    rw [List.isEmpty_iff.mp empty]
    simp
  rename_i filled
  split
  · rename_i other
    constructor
    · intro refused
      cases refused
    · rintro ⟨-, areDigits, -⟩
      rw [List.all_eq_true.mpr areDigits] at other
      cases other
  rename_i digitsOnly
  have areDigits : ∀ digit ∈ digits, digit.isDigit = true := by
    simpa [List.all_eq_true] using digitsOnly
  have notEmpty : digits ≠ [] := fun empty => filled (List.isEmpty_iff.mpr empty)
  rw [and_iff_right notEmpty, and_iff_right areDigits]
  dsimp only
  -- The number is too large for a word, zero, too large for the sheet, or a row.
  split
  · constructor
    · intro refused
      cases refused
    · omega
  split
  · constructor
    · intro refused
      cases refused
    · omega
  split
  · constructor
    · intro refused
      cases refused
    · omega
  · rw [Except.ok.injEq]
    omega

/-- A label is read in two parts, split where its letters end. -/
theorem ofLabel_eq (label : String) :
    ofLabel label =
      if label.toList.isEmpty then .error .empty
      else if (label.toList.takeWhile Char.isAlpha).isEmpty then .error (.noColumn label)
      else
        (Column.ofLetters (label.toList.takeWhile Char.isAlpha)).bind fun column =>
          (rowOfDigits label (label.toList.dropWhile Char.isAlpha)).bind fun row =>
            .ok ⟨row, column⟩ :=
  rfl

/-- A label is read exactly if its leading letters and what follows them name a cell. -/
theorem ofLabel_eq_ok_iff {label : String} {address : Address} :
    ofLabel label = .ok address ↔
      Column.ofLetters (label.toList.takeWhile Char.isAlpha) = .ok address.column ∧
        rowOfDigits label (label.toList.dropWhile Char.isAlpha) = .ok address.row := by
  rw [ofLabel_eq]
  split
  · rename_i empty
    rw [List.isEmpty_iff.mp empty]
    simp [Column.ofLetters]
  split
  · rename_i noLetters
    rw [List.isEmpty_iff.mp noLetters]
    simp [Column.ofLetters]
  constructor
  · intro read
    cases letters : Column.ofLetters (label.toList.takeWhile Char.isAlpha) with
    | error refused =>
      rw [letters] at read
      cases read
    | ok column =>
      cases digits : rowOfDigits label (label.toList.dropWhile Char.isAlpha) with
      | error refused =>
        rw [letters, digits] at read
        cases read
      | ok row =>
        rw [letters, digits] at read
        cases read
        exact ⟨rfl, rfl⟩
  · rintro ⟨letters, digits⟩
    rw [letters, digits]
    rfl

/-- The labels that are read are the letters and digits that name a cell, and the cell is the
one that they name. -/
theorem ofLabel_eq_ok_iff_spellCell {label : String} {address : Address} :
    ofLabel label = .ok address ↔
      ∃ letters digits, label.toList = letters ++ digits ∧ SpellCell letters digits ∧
        address = ⟨Decimal.value digits - 1, Column.number letters - 1⟩ := by
  rw [ofLabel_eq_ok_iff, Column.ofLetters_eq_ok_iff, rowOfDigits_eq_ok_iff]
  constructor
  · rintro ⟨⟨letters_ne_nil, areLetters, column, columnWithin⟩,
      digits_ne_nil, areDigits, row, rowWithin⟩
    refine ⟨_, _, List.takeWhile_append_dropWhile.symm,
      ⟨letters_ne_nil, areLetters, digits_ne_nil, areDigits, by omega, by omega, by omega⟩, ?_⟩
    rw [column, row, Nat.add_sub_cancel, Nat.add_sub_cancel]
  · rintro ⟨letters, digits, text, spelled, rfl⟩
    obtain ⟨takes, drops⟩ := split_append spelled.areLetters spelled.areDigits
    have columnPositive := Column.number_pos spelled.letters_ne_nil spelled.areLetters
    have columnWithin := spelled.column_le
    have rowPositive := spelled.row_pos
    have rowWithin := spelled.row_le
    rw [text, takes, drops]
    exact ⟨⟨spelled.letters_ne_nil, spelled.areLetters, by dsimp only; omega, by dsimp only; omega⟩,
      spelled.digits_ne_nil, spelled.areDigits, by dsimp only; omega, by dsimp only; omega⟩

/-- A label begins with a letter. -/
theorem exists_cons_of_ofLabel {label : String} {address : Address}
    (read : ofLabel label = .ok address) :
    ∃ head tail, label.toList = head :: tail ∧ head.isAlpha = true := by
  obtain ⟨letters, digits, text, spelled, -⟩ := ofLabel_eq_ok_iff_spellCell.mp read
  obtain ⟨head, others, rfl⟩ := List.exists_cons_of_ne_nil spelled.letters_ne_nil
  exact ⟨head, others ++ digits, text, spelled.areLetters head List.mem_cons_self⟩

/-- A text is a label exactly if it names an address. -/
theorem isLabel_iff {label : String} :
    isLabel label = true ↔ ∃ address, ofLabel label = .ok address := by
  rw [isLabel, ofLabel?]
  cases ofLabel label with
  | ok address => exact ⟨fun _ => ⟨address, rfl⟩, fun _ => rfl⟩
  | error problem =>
    constructor
    · intro named
      cases named
    · rintro ⟨address, ⟨⟩⟩

/-- A label that is read names a cell within the bounds of the sheet. -/
theorem inBounds_of_ofLabel {label : String} {address : Address}
    (read : ofLabel label = .ok address) : address.InBounds := by
  obtain ⟨letters, digits⟩ := ofLabel_eq_ok_iff.mp read
  exact ⟨(rowOfDigits_eq_ok_iff.mp digits).2.2.2, (Column.ofLetters_eq_ok_iff.mp letters).2.2.2⟩

end Spreadsheet.Address
