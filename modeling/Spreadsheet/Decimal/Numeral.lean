import Spreadsheet.Decimal.Digits

/-!
# Reading numbers

A numeral is an optional sign followed by `inf`, `infinity` or `nan` in any case,
or by decimal digits with an optional point and an optional exponent. At least one
digit stands before the exponent, on either side of the point. The number meant is
rounded once, to nearest with ties to even; a number too large to hold is infinite.
-/

namespace Spreadsheet.Decimal

/-- What a numeral says, before any rounding. -/
inductive Numeral where
  | undefined
  | infinite (negative : Bool)
  /-- The decimal `digits * 10 ^ exponent`, with a sign. -/
  | decimal (negative : Bool) (digits : Nat) (exponent : Int)
deriving DecidableEq, Repr

/-- Positive infinity. -/
def infinity : Float := 1.0 / 0.0

/-- Not a number. -/
def undefined : Float := 0.0 / 0.0

namespace Numeral

/-- The number with a sign put before it. -/
def withSign (negative : Bool) (magnitude : Float) : Float :=
  if negative then -magnitude else magnitude

/-- The binary64 value nearest to the numeral. -/
def toFloat : Numeral → Float
  | .undefined => Decimal.undefined
  | .infinite negative => withSign negative infinity
  | .decimal negative digits exponent =>
    withSign negative (Float.ofModel (Float.Model.ofScientific digits exponent))

/-- A leading sign, if there is one, and what follows it. -/
def readSign : List Char → Bool × List Char
  | '-' :: rest => (true, rest)
  | '+' :: rest => (false, rest)
  | text => (false, text)

/-- The exponent that ends a numeral: nothing, or `e` with at least one digit. -/
def readExponent? : List Char → Option Int
  | [] => some 0
  | mark :: rest =>
    let (negative, run) := readSign rest
    if (mark == 'e' || mark == 'E') && !run.isEmpty && run.all Char.isDigit then
      some (if negative then -(value run : Int) else (value run : Int))
    else
      none

/-- The digits after a point, if there is one, and what follows them. -/
def readFraction : List Char → List Char × List Char
  | '.' :: rest => (rest.takeWhile Char.isDigit, rest.dropWhile Char.isDigit)
  | text => ([], text)

/-- An unsigned decimal with an optional point and an optional exponent. -/
def readDecimal? (negative : Bool) (text : List Char) : Option Numeral :=
  let whole := text.takeWhile Char.isDigit
  let (fraction, rest) := readFraction (text.dropWhile Char.isDigit)
  if whole.isEmpty && fraction.isEmpty then none
  else (readExponent? rest).map fun exponent =>
    .decimal negative (value (whole ++ fraction)) (exponent - fraction.length)

/-- The numeral that a text spells. -/
def read? (text : List Char) : Option Numeral :=
  let (negative, rest) := readSign text
  let word := rest.map Char.toLower
  if word = "inf".toList ∨ word = "infinity".toList then some (.infinite negative)
  else if word = "nan".toList then some .undefined
  else readDecimal? negative rest

end Numeral

/-- The number that a text spells, rounded to binary64. -/
def readFloat? (text : List Char) : Option Float :=
  (Numeral.read? text).map Numeral.toFloat

end Spreadsheet.Decimal
