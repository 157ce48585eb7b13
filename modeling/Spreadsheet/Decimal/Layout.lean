import Spreadsheet.Decimal.Digits
import Spreadsheet.Decimal.Shortest

/-!
# Laying out a number as text

`Layout.render` writes a binary64 value with its shortest digits. What a format
decides beyond the digits is one `Layout` record, defined where that format's
output is written.
-/

namespace Spreadsheet.Decimal

/-- The decisions of a number format. -/
structure Layout where
  /-- Which of two equally near shortest decimals is written. -/
  tie : Tie
  /-- The exponents of the leading digit that are written positionally; outside
  them the exponent is written out. Without bounds every number is positional. -/
  positional : Option (Int × Int)
  /-- Whether a whole number ends in a point and a zero. -/
  wholePoint : Bool
  /-- Whether negative zero keeps its sign. -/
  signedZero : Bool
deriving DecidableEq, Repr

namespace Layout

/-- The text of not-a-number. -/
def undefinedText : List Char := "NaN".toList

/-- The text of infinity. -/
def infinityText : List Char := "inf".toList

/-- A minus sign before a negative number. -/
def signed (negative : Bool) (text : List Char) : List Char :=
  if negative then '-' :: text else text

/-- What follows the digits of a whole number. -/
def wholeEnd (layout : Layout) : List Char :=
  if layout.wholePoint then ['.', '0'] else []

/-- Digits written positionally, with the point after, inside or before them. -/
def positionalText (layout : Layout) (digits : List Char) (exponent : Int) : List Char :=
  if 0 ≤ exponent then
    digits ++ List.replicate exponent.toNat '0' ++ layout.wholeEnd
  else
    let fraction := (-exponent).toNat
    if fraction < digits.length then
      digits.take (digits.length - fraction) ++ '.' :: digits.drop (digits.length - fraction)
    else
      '0' :: '.' :: List.replicate (fraction - digits.length) '0' ++ digits

/-- The leading digit, the others behind a point, and the exponent of the leading
digit with its sign. -/
def scientificText (digits : List Char) (leading : Int) : List Char :=
  let fraction := if digits.length ≤ 1 then [] else '.' :: digits.drop 1
  let sign := if 0 ≤ leading then '+' else '-'
  digits.take 1 ++ fraction ++ 'e' :: sign :: Decimal.digits leading.natAbs

/-- A positive decimal. -/
def scaledText (layout : Layout) (decimal : Scaled) : List Char :=
  let digits := Decimal.digits decimal.digits
  let leading := decimal.exponent + digits.length - 1
  match layout.positional with
  | none => layout.positionalText digits decimal.exponent
  | some (least, greatest) =>
    if least ≤ leading ∧ leading ≤ greatest then layout.positionalText digits decimal.exponent
    else scientificText digits leading

/-- The text of a number. -/
def text (layout : Layout) (number : Float) : List Char :=
  match number.toModel.unpack with
  | .notANumber => undefinedText
  | .infinity sign => signed (sign == .negative) infinityText
  | .zero sign => signed (layout.signedZero && sign == .negative) ('0' :: layout.wholeEnd)
  | .finite sign significand exponent _ =>
    signed (sign == .negative)
      (layout.scaledText (Dyadic.shortest ⟨significand, exponent⟩ layout.tie))

/-- The text of a number, as a string. -/
def render (layout : Layout) (number : Float) : String :=
  String.ofList (layout.text number)

end Layout

end Spreadsheet.Decimal
