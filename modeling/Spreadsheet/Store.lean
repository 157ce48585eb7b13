import Spreadsheet.Cell.Basic
import Std.Data.TreeMap

/-!
# Where references are looked up

A store answers with the cell that a label names. A reference reads the value of
that cell; a cell that is missing or has no formula is no value, and an error of
the cell becomes the error of the reference.
-/

namespace Spreadsheet

/-- The cell that a label names, if there is one. -/
abbrev Store := String → Option Cell

namespace Store

/-- The value that a reference reads, or the error that it meets. -/
def resolve (store : Store) (label : String) : Except CellError Float :=
  match store label with
  | none => .error .invalidCell
  | some cell =>
    match cell.outcome.error with
    | none | some .emptyFormula =>
      if cell.formula.isEmpty then .error .invalidCell else .ok cell.outcome.value
    | some error => .error error

/-- Cells kept under the exact text of their names. -/
abbrev Names := Std.TreeMap String Cell

/-- The store that looks a label up by its exact text. -/
def ofNames (names : Names) : Store :=
  fun label => names[label]?

end Store

end Spreadsheet
