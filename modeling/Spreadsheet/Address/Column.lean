import Spreadsheet.Address.LabelError

/-!
# Column letters

Columns are lettered A to Z, AA to ZZ, AAA and so on: base twenty-six with the
digits one to twenty-six and no zero. Reading takes letters of either case and
stops at the first letter that leaves the sheet.
-/

namespace Spreadsheet.Column

/-- The capital letter of a digit below twenty-six. -/
def letter (digit : Nat) : Char :=
  Char.ofNat ('A'.toNat + digit)

/-- The place of a letter in the alphabet, from one to twenty-six, in either case. -/
def letterValue (letter : Char) : Nat :=
  letter.toUpper.toNat - 'A'.toNat + 1

/-- The letters of a column. -/
def letters (column : Nat) : List Char :=
  if column < 26 then [letter column]
  else letters (column / 26 - 1) ++ [letter (column % 26)]

/-- The column number, counted from one, after one more letter. -/
def extend (number : Nat) (letter : Char) : Except LabelError Nat :=
  if letter.isAlpha then
    let extended := number * 26 + letterValue letter
    if extended ≤ Address.columnLimit then .ok extended
    else .error (.columnOutOfBounds (extended - 1))
  else
    .error (.notALetter letter)

/-- The column that a run of letters names. -/
def ofLetters (letters : List Char) : Except LabelError Nat :=
  if letters.isEmpty then .error .noLetters
  else (letters.foldlM extend 0).map (· - 1)

end Spreadsheet.Column
