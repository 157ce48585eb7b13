import Spreadsheet.Decimal.Layout
import Spreadsheet.Json.Basic
import Spreadsheet.Json.StringLiteral

/-!
# Writing values

One writer serves the compact and the indented style. Numbers are written with
their shortest digits and always with a point or an exponent; the two containers
without contents are written without a break.
-/

namespace Spreadsheet.Json

/-- Numbers keep a decimal point, ties go to the even digit, and the exponent is
written out below the fifth and from the sixteenth power of ten. -/
def numberLayout : Decimal.Layout where
  tie := .toEven
  positional := some (-5, 15)
  wholePoint := true
  signedZero := true

/-- What stands between the parts of a value. -/
structure Style where
  /-- The break before an item at a depth. -/
  lineBreak : Nat → List Char
  /-- What stands between a name and its value. -/
  colon : List Char

namespace Style

/-- Everything on one line, without spaces. -/
def compact : Style := ⟨fun _ => [], [':']⟩

/-- Every item on a line of its own, two spaces further in at every depth. -/
def indented : Style := ⟨fun depth => '\n' :: List.replicate (2 * depth) ' ', [':', ' ']⟩

end Style

/-- A number; what is not finite has no number form and is written as `null`. -/
def numberText (value : Float) : List Char :=
  if value.isFinite then numberLayout.text value else "null".toList

mutual

/-- The text of a value that starts at a depth. -/
def write (style : Style) (depth : Nat) : Json → List Char
  | .null => "null".toList
  | .bool true => "true".toList
  | .bool false => "false".toList
  | .number value => numberText value
  | .text value => StringLiteral.write value.toList
  | .list [] => ['[', ']']
  | .list (item :: items) =>
    '[' :: style.lineBreak (depth + 1) ++ write style (depth + 1) item ++
      writeItems style (depth + 1) items ++ style.lineBreak depth ++ [']']
  | .object [] => ['{', '}']
  | .object ((name, value) :: members) =>
    '{' :: style.lineBreak (depth + 1) ++ StringLiteral.write name.toList ++ style.colon ++
      write style (depth + 1) value ++ writeMembers style (depth + 1) members ++
      style.lineBreak depth ++ ['}']
  | .unrepresentable => "null".toList

/-- The items after the first, each behind a comma. -/
def writeItems (style : Style) (depth : Nat) : List Json → List Char
  | [] => []
  | item :: items =>
    ',' :: style.lineBreak depth ++ write style depth item ++ writeItems style depth items

/-- The members after the first, each behind a comma. -/
def writeMembers (style : Style) (depth : Nat) : List (String × Json) → List Char
  | [] => []
  | (name, value) :: members =>
    ',' :: style.lineBreak depth ++ StringLiteral.write name.toList ++ style.colon ++
      write style depth value ++ writeMembers style depth members

end

/-- The text of a value on one line. -/
def compact (value : Json) : String :=
  String.ofList (write .compact 0 value)

/-- The text of a value with one item a line. -/
def indented (value : Json) : String :=
  String.ofList (write .indented 0 value)

end Spreadsheet.Json
