import Spreadsheet.Address.Column
import Spreadsheet.Decimal.Digits

/-!
# Cell labels

A label is column letters followed by a row number counted from one. Letters of
either case and leading zeros of the row are read; capital letters and no leading
zeros are written. `Address.ofLabel` reads a label and `Address.label` writes the
one canonical label of an address.
-/

namespace Spreadsheet.Address

/-- Row numbers at or above this bound are malformed rather than out of bounds. -/
def rowNumberLimit : Nat := Nat.pow 2 32

/-- The row that the digits of a label name; `label` is the whole label, for reports. -/
def rowOfDigits (label : String) (digits : List Char) : Except LabelError Nat :=
  if digits.isEmpty then .error (.noRow label)
  else if !digits.all Char.isDigit then .error (.badRow label)
  else
    let number := Decimal.value digits
    if rowNumberLimit ≤ number then .error (.badRow label)
    else if number = 0 then .error (.rowZero label)
    else if rowLimit ≤ number - 1 then .error (.rowOutOfBounds (number - 1))
    else .ok (number - 1)

/-- The address that a label names. The column is settled before the row is looked at. -/
def ofLabel (label : String) : Except LabelError Address :=
  let letters := label.toList.takeWhile Char.isAlpha
  let digits := label.toList.dropWhile Char.isAlpha
  if label.toList.isEmpty then .error .empty
  else if letters.isEmpty then .error (.noColumn label)
  else do
    let column ← Column.ofLetters letters
    let row ← rowOfDigits label digits
    return ⟨row, column⟩

/-- The address that a label names, if it names one. -/
def ofLabel? (label : String) : Option Address :=
  (ofLabel label).toOption

/-- Whether a text names a cell. -/
def isLabel (label : String) : Bool :=
  (ofLabel? label).isSome

/-- The characters of the canonical label. -/
def labelCharacters (address : Address) : List Char :=
  Column.letters address.column ++ Decimal.digits (address.row + 1)

/-- The canonical label: capital letters and a row number without leading zeros. -/
def label (address : Address) : String :=
  String.ofList address.labelCharacters

end Spreadsheet.Address
