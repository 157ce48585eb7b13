import Spreadsheet.Formula.Machine
import Spreadsheet.Formula.Token
import Spreadsheet.Store

/-!
# Evaluating a formula

Evaluation never fails outright: it gives a number, and beside it an error if
something was wrong. A few shapes are settled before the machine starts. A dangling
operator at the end is dropped and remembered as an error. The first reference that
does not resolve, and the first unknown token, end the run with zero.
-/

namespace Spreadsheet.Formula

/-- Whether a formula of more than three tokens ends in one operator too many. -/
def hasDanglingOperator (tokens : List Token) : Bool :=
  3 < tokens.length && tokens.getLast?.any Token.isOperator &&
    !tokens.dropLast.getLast?.any Token.isOperator

/-- Whether the formula is a pair of parentheses with nothing inside. -/
def isEmptyGroup : List Token → Bool
  | [.openGroup, .closeGroup] => true
  | _ => false

/-- Whether the formula ends in a division by a zero that is spelled out. -/
def endsInZeroDivision (tokens : List Token) : Bool :=
  match tokens.reverse with
  | .number value :: .operator .divide :: _ => value == 0.0
  | _ => false

/-- One token of the scan. Unknown tokens and unresolved references end it. -/
def step (store : Store) (machine : Machine) : Token → Except CellError Machine
  | .number value => .ok (machine.pushValue value)
  | .reference label => (store.resolve label).map machine.pushValue
  | .operator operator => .ok (machine.pushOperator operator)
  | .openGroup => .ok machine.openGroup
  | .closeGroup => .ok machine.closeGroup
  | .unknown _ => .error .invalidFormula

/-- The machine after a scan that was not ended early. -/
def scan (store : Store) (machine : Machine) (tokens : List Token) : Except CellError Machine :=
  tokens.foldlM (step store) machine

/-- The outcome that a drained machine reports. One value is the result, unless it is
not a number: then the number that the formula starts with, if any, stands in. -/
def report (first : Option Token) (machine : Machine) : Outcome :=
  match machine.values with
  | [value] =>
    if value.isNaN then
      ⟨(first.bind Token.number?).getD Decimal.undefined,
        some (machine.error.getD .invalidFormula)⟩
    else
      ⟨value, machine.error⟩
  | _ => .zero (machine.error.getD .invalidFormula)

/-- The outcome of scanning tokens with an error that was met before. -/
def run (store : Store) (repair : Option CellError) (tokens : List Token) : Outcome :=
  match scan store (.start repair) tokens with
  | .error error => .zero error
  | .ok machine => report tokens.head? machine.drain

/-- The outcome of a formula whose references are looked up in a store. -/
def evaluate (store : Store) (formula : List Token) : Outcome :=
  let dangling := hasDanglingOperator formula
  let tokens := if dangling then formula.dropLast else formula
  if formula.isEmpty then .failed .emptyFormula
  else if isEmptyGroup tokens then .failed .missingParentheses
  else if !dangling && endsInZeroDivision tokens then .failed .divideByZero
  else if !tokens.any Token.isOperand then .failed .invalidFormula
  else run store (if dangling then some .invalidFormula else none) tokens

end Spreadsheet.Formula
