import Spreadsheet.Address.Label
import Spreadsheet.Decimal.Layout
import Spreadsheet.Decimal.Numeral
import Spreadsheet.Formula.Lexer
import Spreadsheet.Formula.Operator

/-!
# Tokens

A token text is a parenthesis, an operator, a number, a cell label, or unknown.
The classes do not overlap. Numbers may stand in white space and may carry a sign,
but must have a digit and must not be not-a-number; a reference keeps its label as
it was written.
-/

namespace Spreadsheet

/-- A classified token. -/
inductive Token where
  | number (value : Float)
  | reference (label : String)
  | operator (operator : Operator)
  | openGroup
  | closeGroup
  | unknown (text : String)
deriving DecidableEq

namespace Token

/-- The number that a token text spells. -/
def readNumber? (text : String) : Option Float :=
  let trimmed := Text.trim text.toList
  if trimmed.any Char.isDigit then
    (Decimal.readFloat? trimmed).filter fun value => !value.isNaN
  else
    none

/-- The class of a token text. -/
def classify (text : String) : Token :=
  if text = "(" then .openGroup
  else if text = ")" then .closeGroup
  else
    match Operator.ofSymbol? text with
    | some found => .operator found
    | none =>
      match readNumber? text with
      | some value => .number value
      | none => if Address.isLabel text then .reference text else .unknown text

/-- Tokens show numbers positionally and without a needless point; the upper of two
equally near digits is written. -/
def numberLayout : Decimal.Layout where
  tie := .awayFromZero
  positional := none
  wholePoint := false
  signedZero := true

/-- The text that shows a token. -/
def display : Token → String
  | .number value => numberLayout.render value
  | .reference label => label
  | .operator own => own.symbol
  | .openGroup => "("
  | .closeGroup => ")"
  | .unknown text => text

/-- Whether the token is an operator. -/
def isOperator : Token → Bool
  | .operator _ => true
  | _ => false

/-- Whether the token stands for a value: a number or a reference. -/
def isOperand : Token → Bool
  | .number _ | .reference _ => true
  | _ => false

/-- The number of a number token. -/
def number? : Token → Option Float
  | .number value => some value
  | _ => none

/-- The label of a reference token. -/
def reference? : Token → Option String
  | .reference label => some label
  | _ => none

end Token

namespace Formula

/-- The classified tokens of a raw formula. -/
def classify (raw : List String) : List Token :=
  raw.map Token.classify

/-- The classified tokens of formula text. -/
def parse (text : String) : Except UnexpectedCharacter (List Token) :=
  (tokenize text).map classify

/-- The labels that a formula refers to, as written and in order. -/
def references (tokens : List Token) : List String :=
  tokens.filterMap Token.reference?

/-- The text that shows a formula, its tokens one space apart. -/
def display (tokens : List Token) : String :=
  " ".intercalate (tokens.map Token.display)

end Formula

end Spreadsheet
