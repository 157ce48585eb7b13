import Spreadsheet.Proofs.Address.Words

/-!
# One canonical label for each cell

A label that is read and the canonical label of the address that it names differ only in the
case of letters and in leading zeros, and the canonical label of an address on the sheet is
read as that address. So two labels name the same cell exactly if they become equal once
letters are capitals and leading zeros are gone.
-/

namespace Spreadsheet.Address

/-- A text with its leading letters as capitals and without the zeros that follow them. -/
def canonicalText (label : String) : String :=
  String.ofList <| (label.toList.takeWhile Char.isAlpha).map Char.toUpper ++
    (label.toList.dropWhile Char.isAlpha).dropWhile (· == '0')

/-- A label that is read names the address whose label is its canonical text. -/
theorem label_eq_canonicalText {label : String} {address : Address}
    (read : ofLabel label = .ok address) : address.label = canonicalText label := by
  obtain ⟨letters, digits, text, spelled, rfl⟩ := ofLabel_eq_ok_iff_spellCell.mp read
  obtain ⟨takes, drops⟩ := split_append spelled.areLetters spelled.areDigits
  have row : Decimal.value digits - 1 + 1 = Decimal.value digits :=
    Nat.sub_add_cancel spelled.row_pos
  rw [Address.label, labelCharacters, canonicalText, text, takes, drops,
    Column.letters_number spelled.letters_ne_nil spelled.areLetters, row,
    Decimal.digits_value spelled.areDigits spelled.row_pos]

/-- The label of an address on the sheet is read as the address. -/
theorem ofLabel_label {address : Address} (inBounds : address.InBounds) :
    ofLabel address.label = .ok address := by
  obtain ⟨rowWithin, columnWithin⟩ := inBounds
  have column := Column.number_letters address.column
  have row := Decimal.value_digits (address.row + 1)
  refine ofLabel_eq_ok_iff_spellCell.mpr
    ⟨Column.letters address.column, Decimal.digits (address.row + 1), String.toList_ofList,
      ⟨Column.letters_ne_nil _, fun _ => Column.isAlpha_of_mem_letters, Decimal.digits_ne_nil _,
        fun _ => Decimal.isDigit_of_mem_digits, by omega, by omega, by omega⟩, ?_⟩
  rw [column, row, Nat.add_sub_cancel, Nat.add_sub_cancel]

/-- A label comes apart into the letters of the column and the digits of the row. -/
theorem split_labelCharacters (address : Address) :
    address.labelCharacters.takeWhile Char.isAlpha = Column.letters address.column ∧
      address.labelCharacters.dropWhile Char.isAlpha = Decimal.digits (address.row + 1) :=
  split_append (fun _ => Column.isAlpha_of_mem_letters) fun _ => Decimal.isDigit_of_mem_digits

/-- Different addresses, on the sheet or not, have different labels. -/
theorem label_injective : Function.Injective label := by
  intro left right same
  have text : left.labelCharacters = right.labelCharacters := String.ofList_injective same
  obtain ⟨leftLetters, leftDigits⟩ := split_labelCharacters left
  obtain ⟨rightLetters, rightDigits⟩ := split_labelCharacters right
  have column : left.column + 1 = right.column + 1 := by
    rw [← Column.number_letters, ← Column.number_letters, ← leftLetters, ← rightLetters, text]
  have row : left.row + 1 = right.row + 1 := by
    rw [← Decimal.value_digits (left.row + 1), ← Decimal.value_digits (right.row + 1),
      ← leftDigits, ← rightDigits, text]
  cases left
  cases right
  cases Nat.add_right_cancel column
  cases Nat.add_right_cancel row
  rfl

/-- Labels that are read name the same cell exactly if they have the same canonical text. -/
theorem eq_iff_canonicalText_eq {left right : String} {leftAddress rightAddress : Address}
    (leftRead : ofLabel left = .ok leftAddress) (rightRead : ofLabel right = .ok rightAddress) :
    leftAddress = rightAddress ↔ canonicalText left = canonicalText right := by
  rw [← label_eq_canonicalText leftRead, ← label_eq_canonicalText rightRead]
  constructor
  · rintro rfl
    rfl
  · intro same
    have read := ofLabel_label (inBounds_of_ofLabel leftRead)
    rw [same, ofLabel_label (inBounds_of_ofLabel rightRead)] at read
    exact (Except.ok.inj read).symm

/-- Exactly the texts are read that are letters with a column number on the sheet, followed by
digits with a row number on the sheet, and they name that column and row; no computation on the
way leaves its word. The canonical label of what is read is the text with capitals and without
leading zeros, every address on the sheet is what its canonical label names, and therefore
labels name the same cell exactly if they have the same canonical text. -/
theorem ofLabel_exact :
    (∀ label address, ofLabel label = .ok address ↔
      ∃ letters digits, label.toList = letters ++ digits ∧ SpellCell letters digits ∧
        address = ⟨Decimal.value digits - 1, Column.number letters - 1⟩) ∧
    (∀ label, Words.ofLabel label = some (ofLabel label)) ∧
    (∀ label address, ofLabel label = .ok address → address.label = canonicalText label) ∧
    (∀ address : Address, address.InBounds → ofLabel address.label = .ok address) ∧
    (∀ left right leftAddress rightAddress,
      ofLabel left = .ok leftAddress → ofLabel right = .ok rightAddress →
        (leftAddress = rightAddress ↔ canonicalText left = canonicalText right)) :=
  ⟨fun _ _ => ofLabel_eq_ok_iff_spellCell, Words.ofLabel_eq,
    fun _ _ read => label_eq_canonicalText read, fun _ inBounds => ofLabel_label inBounds,
    fun _ _ _ _ leftRead rightRead => eq_iff_canonicalText_eq leftRead rightRead⟩

/-- The last cell of the sheet in two spellings. -/
theorem ofLabel_exact_last_cell :
    let last : Address := ⟨1048575, 16383⟩
    last.InBounds ∧ ofLabel "xFd0001048576" = .ok last ∧ ofLabel "XFD1048576" = .ok last ∧
    last.label = canonicalText "xFd0001048576" ∧ ofLabel last.label = .ok last ∧
    (last = last ↔ canonicalText "xFd0001048576" = canonicalText "XFD1048576") := by
  intro last
  have inBounds : last.InBounds := by decide
  have padded : ofLabel "xFd0001048576" = .ok last := by decide +kernel
  have plain : ofLabel "XFD1048576" = .ok last := by decide +kernel
  obtain ⟨-, -, canonical, readsBack, sameCell⟩ := ofLabel_exact
  exact ⟨inBounds, padded, plain, canonical _ _ padded, readsBack _ inBounds,
    sameCell _ _ _ _ padded plain⟩

end Spreadsheet.Address
