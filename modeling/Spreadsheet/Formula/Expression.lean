import Spreadsheet.Formula.Token

/-!
# Arithmetic expressions

The grammar of arithmetic as trees: an expression joins terms by `+` and `-`, a term
joins factors by `*` and `/`, and a factor is a number, a reference or an expression
in parentheses. A tree has its tokens, read from left to right, and its value,
computed from the leaves up in floating-point arithmetic. Whether something is divided
by zero on the way is asked apart from the value.
-/

namespace Spreadsheet

mutual

/-- Terms joined by addition and subtraction, from the left. -/
inductive Expression where
  | term (term : Term)
  | add (left : Expression) (right : Term)
  | subtract (left : Expression) (right : Term)

/-- Factors joined by multiplication and division, from the left. -/
inductive Term where
  | factor (factor : Factor)
  | multiply (left : Term) (right : Factor)
  | divide (left : Term) (right : Factor)

/-- What stands on its own. -/
inductive Factor where
  | number (value : Float)
  | reference (label : String)
  | group (inner : Expression)

end

/-! ## Tokens -/

mutual

/-- The tokens of an expression, from left to right. -/
def Expression.tokens : Expression → List Token
  | .term term => term.tokens
  | .add left right => left.tokens ++ .operator .add :: right.tokens
  | .subtract left right => left.tokens ++ .operator .subtract :: right.tokens

/-- The tokens of a term, from left to right. -/
def Term.tokens : Term → List Token
  | .factor factor => factor.tokens
  | .multiply left right => left.tokens ++ .operator .multiply :: right.tokens
  | .divide left right => left.tokens ++ .operator .divide :: right.tokens

/-- The tokens of a factor, from left to right. -/
def Factor.tokens : Factor → List Token
  | .number value => [.number value]
  | .reference label => [.reference label]
  | .group inner => .openGroup :: inner.tokens ++ [.closeGroup]

end

/-! ## Values -/

mutual

/-- The value of an expression; `read` gives the values of the references. -/
def Expression.value (read : String → Float) : Expression → Float
  | .term term => term.value read
  | .add left right => left.value read + right.value read
  | .subtract left right => left.value read - right.value read

/-- The value of a term. -/
def Term.value (read : String → Float) : Term → Float
  | .factor factor => factor.value read
  | .multiply left right => left.value read * right.value read
  | .divide left right => left.value read / right.value read

/-- The value of a factor. -/
def Factor.value (read : String → Float) : Factor → Float
  | .number value => value
  | .reference label => read label
  | .group inner => inner.value read

end

/-! ## Divisions by zero -/

mutual

/-- Whether something is divided by zero anywhere in an expression. -/
def Expression.hasZeroDivision (read : String → Float) : Expression → Bool
  | .term term => term.hasZeroDivision read
  | .add left right => left.hasZeroDivision read || right.hasZeroDivision read
  | .subtract left right => left.hasZeroDivision read || right.hasZeroDivision read

/-- Whether something is divided by zero anywhere in a term. -/
def Term.hasZeroDivision (read : String → Float) : Term → Bool
  | .factor factor => factor.hasZeroDivision read
  | .multiply left right => left.hasZeroDivision read || right.hasZeroDivision read
  | .divide left right =>
    left.hasZeroDivision read || right.hasZeroDivision read || right.value read == 0.0

/-- Whether something is divided by zero anywhere in a factor. -/
def Factor.hasZeroDivision (read : String → Float) : Factor → Bool
  | .number _ => false
  | .reference _ => false
  | .group inner => inner.hasZeroDivision read

end

mutual

/-- Whether the outermost operator of an expression, parentheses around it aside, divides by
zero and nothing below it does. -/
def Expression.isZeroDivision (read : String → Float) : Expression → Bool
  | .term term => term.isZeroDivision read
  | .add _ _ => false
  | .subtract _ _ => false

/-- Whether the outermost operator of a term is the only one that divides by zero. -/
def Term.isZeroDivision (read : String → Float) : Term → Bool
  | .factor factor => factor.isZeroDivision read
  | .multiply _ _ => false
  | .divide left right =>
    !left.hasZeroDivision read && !right.hasZeroDivision read && right.value read == 0.0

/-- Whether the outermost operator inside a factor is the only one that divides by zero. -/
def Factor.isZeroDivision (read : String → Float) : Factor → Bool
  | .number _ => false
  | .reference _ => false
  | .group inner => inner.isZeroDivision read

end

end Spreadsheet
