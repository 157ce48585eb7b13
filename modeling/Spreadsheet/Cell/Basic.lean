import Spreadsheet.Outcome

/-!
# Cells

A cell keeps its formula as the raw token texts it was entered with, and beside
it the outcome of the last evaluation.
-/

namespace Spreadsheet

/-- A formula as raw token texts, and the outcome of its last evaluation. -/
structure Cell where
  formula : List String := []
  outcome : Outcome := .ok 0.0
deriving DecidableEq

namespace Cell

/-- A cell whose formula has not been evaluated yet. -/
def ofFormula (formula : List String) : Cell :=
  { formula }

/-- The cell with a new outcome and the formula it had. -/
def withOutcome (cell : Cell) (outcome : Outcome) : Cell :=
  { cell with outcome }

/-- Whether two cells report the same, numbers compared as numbers. -/
def agrees (left right : Cell) : Bool :=
  left.formula == right.formula && left.outcome.agrees right.outcome

end Cell

end Spreadsheet
