import Spreadsheet.Decimal.Numeral

/-!
# Cell errors

What can be wrong with the result of a cell. Every kind has a display text, and
text that is no kind's display text is kept as foreign. Every error comes with the
number that stands in for the missing result.
-/

namespace Spreadsheet

/-- What is wrong with the result of a cell. -/
inductive CellError where
  /-- The formula has no tokens. -/
  | emptyFormula
  /-- The tokens form no expression. -/
  | invalidFormula
  /-- A pair of parentheses with nothing inside. -/
  | missingParentheses
  | divideByZero
  /-- A reference to a cell that has no formula. -/
  | invalidCell
  /-- An operator without enough operands. -/
  | invalidOperator
  /-- The cell takes part in a reference cycle. -/
  | circularReference
  /-- Foreign text, kept as it is. -/
  | other (text : String)
deriving DecidableEq, Repr

namespace CellError

/-- The kinds that have a display text of their own. -/
def kinds : List CellError :=
  [.emptyFormula, .invalidFormula, .missingParentheses, .divideByZero, .invalidCell,
   .invalidOperator, .circularReference]

/-- The display text. -/
def text : CellError → String
  | .emptyFormula => "#EMPTY!"
  | .invalidFormula => "#ERR!"
  | .missingParentheses => "#PAREN!"
  | .divideByZero => "#DIV/0!"
  | .invalidCell => "#REF!"
  | .invalidOperator => "#OP!"
  | .circularReference => "#CIRC!"
  | .other text => text

/-- The error that a display text stands for; the empty text stands for none. -/
def ofText? (text : String) : Option CellError :=
  if text = "" then none
  else some ((kinds.find? fun kind => kind.text = text).getD (.other text))

/-- The number that stands in for the result. -/
def standIn : CellError → Float
  | .divideByZero => Decimal.infinity
  | _ => 0.0

end CellError

end Spreadsheet
