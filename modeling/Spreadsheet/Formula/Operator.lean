import Spreadsheet.Decimal.Numeral

/-!
# Operators
-/

namespace Spreadsheet

/-- The four operations of arithmetic. -/
inductive Operator where
  | add
  | subtract
  | multiply
  | divide
deriving DecidableEq, Repr

namespace Operator

/-- The sign that stands for the operation. -/
def symbol : Operator → String
  | .add => "+"
  | .subtract => "-"
  | .multiply => "*"
  | .divide => "/"

/-- The operation that a sign stands for. -/
def ofSymbol? : String → Option Operator
  | "+" => some .add
  | "-" => some .subtract
  | "*" => some .multiply
  | "/" => some .divide
  | _ => none

/-- Signs are read as they are written. -/
theorem ofSymbol?_eq_some_iff {text : String} {operator : Operator} :
    ofSymbol? text = some operator ↔ text = operator.symbol := by
  constructor
  · intro found
    unfold ofSymbol? at found
    split at found <;> cases found <;> rfl
  · rintro rfl
    cases operator <;> rfl

/-- How tightly the operation binds. -/
def precedence : Operator → Nat
  | .add | .subtract => 1
  | .multiply | .divide => 2

/-- The result of the operation. Division has none when the divisor is zero. -/
def result? (operator : Operator) (left right : Float) : Option Float :=
  match operator with
  | .add => some (left + right)
  | .subtract => some (left - right)
  | .multiply => some (left * right)
  | .divide => if right == 0.0 then none else some (left / right)

end Operator

end Spreadsheet
