import Spreadsheet.Sheet.Calculation

/-!
# Histories of a sheet

A history is a list of operations on a sheet, applied one after the other. An
operation that is refused leaves the sheet as it was.
-/

namespace Spreadsheet

/-- One operation on a sheet. -/
inductive SheetOperation where
  | setFormula (label : String) (formula : List String)
  | setFormulaAt (address : Address) (formula : List String)
  | insert (label : String) (cell : Cell)
  | setOutcome (address : Address) (outcome : Outcome)
  | clear (label : String)
  | clearDirty
  | calculate (options : CalculationOptions)
deriving DecidableEq

namespace SheetOperation

/-- The sheet after an operation, or the reason for which it is refused. -/
def attempt (sheet : Sheet) : SheetOperation → Except LabelError Sheet
  | .setFormula label formula => sheet.setFormula label formula
  | .setFormulaAt address formula => .ok (sheet.setFormulaAt address formula)
  | .insert label cell => sheet.insert label cell
  | .setOutcome address outcome => .ok (sheet.setOutcome address outcome).2
  | .clear label => (sheet.clear label).map Prod.snd
  | .clearDirty => .ok sheet.clearDirty
  | .calculate options => .ok (sheet.calculate options).1

/-- The sheet after an operation; a refused one changes nothing. -/
def apply (sheet : Sheet) (operation : SheetOperation) : Sheet :=
  match operation.attempt sheet with
  | .ok changed => changed
  | .error _ => sheet

end SheetOperation

namespace Sheet

/-- The sheet after a list of operations. -/
def run (sheet : Sheet) (operations : List SheetOperation) : Sheet :=
  operations.foldl SheetOperation.apply sheet

end Sheet

end Spreadsheet
