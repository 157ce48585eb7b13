import Spreadsheet.Address.Basic

/-!
# Why a text names no cell
-/

namespace Spreadsheet

/-- The reasons for which a text is refused as a cell label. -/
inductive LabelError where
  | empty
  | noColumn (label : String)
  | noLetters
  | notALetter (character : Char)
  | noRow (label : String)
  | badRow (label : String)
  | rowZero (label : String)
  | rowOutOfBounds (row : Nat)
  | columnOutOfBounds (column : Nat)
deriving DecidableEq, Repr

namespace LabelError

/-- The sentence that reports the reason. -/
def message : LabelError → String
  | .empty => invalid "empty address"
  | .noColumn label => invalid s!"no column letters in '{label}'"
  | .noLetters => invalid "empty column letters"
  | .notALetter character => invalid s!"invalid column letter '{character}'"
  | .noRow label => invalid s!"no row number in '{label}'"
  | .badRow label => invalid s!"invalid row number in '{label}'"
  | .rowZero label => invalid s!"row number must be >= 1 in '{label}'"
  | .rowOutOfBounds row => outOfBounds "Row" row (Address.rowLimit - 1)
  | .columnOutOfBounds column => outOfBounds "Column" column (Address.columnLimit - 1)
where
  invalid (detail : String) : String := "Invalid cell address: " ++ detail
  outOfBounds (axis : String) (index limit : Nat) : String :=
    s!"{axis} index {index} out of bounds (max: {limit})"

end LabelError

end Spreadsheet
