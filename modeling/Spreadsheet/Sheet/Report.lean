import Spreadsheet.Cell.Record
import Spreadsheet.Decimal.Layout
import Spreadsheet.Json.Writer
import Spreadsheet.Sheet.Basic

/-!
# Reports on a sheet

A calculated sheet is reported as comma-separated lines or as data. The lines give
label, value and error of every cell, row by row; the data give every cell under its
label, in the order of the label texts.
-/

namespace Spreadsheet

namespace Report

/-- Values are written positionally, whole numbers without a point and zero without a
sign; the upper of two equally near digits is written. -/
def valueLayout : Decimal.Layout where
  tie := .awayFromZero
  positional := none
  wholePoint := false
  signedZero := false

/-- The text of a value. -/
def valueText (value : Float) : String :=
  valueLayout.render value

/-- Whether a character in a field calls for quotes. -/
def needsQuotes (character : Char) : Bool :=
  character == ',' || character == '"' || character == '\n' || character == '\r'

/-- A field, in quotes where it has to be; a quote inside is written twice. -/
def field (text : String) : List Char :=
  if text.toList.any needsQuotes then
    '"' :: text.toList.flatMap (fun character =>
      if character = '"' then ['"', '"'] else [character]) ++ ['"']
  else
    text.toList

/-- Fields as one line with its end. -/
def line (fields : List String) : List Char :=
  [','].intercalate (fields.map field) ++ ['\n']

/-- The fields that name the others. -/
def header : List String := ["label", "value", "error"]

/-- The text of an error, empty if there is none. -/
def errorText (error : Option CellError) : String :=
  (error.map CellError.text).getD ""

/-- The fields of a cell. -/
def row (address : Address) (cell : Cell) : List String :=
  [address.label, valueText cell.outcome.value, errorText cell.outcome.error]

/-- What an evaluation prints: the value, and behind a tab the error if there is one. -/
def outcomeText (outcome : Outcome) : String :=
  match outcome.error with
  | none => valueText outcome.value ++ "\n"
  | some error => valueText outcome.value ++ "\t" ++ error.text ++ "\n"

end Report

namespace Sheet

/-- The sheet as comma-separated lines, row by row under a header. -/
def toCsv (sheet : Sheet) : String :=
  String.ofList <| Report.line Report.header ++
    sheet.entries.flatMap fun (address, cell) => Report.line (Report.row address cell)

/-- The cells under their labels, in the order of the label texts. -/
def byLabel (sheet : Sheet) : Std.TreeMap String Cell :=
  sheet.entries.foldl (fun cells (address, cell) => cells.insert address.label cell) ∅

/-- The sheet as data. -/
def toJson (sheet : Sheet) : Json :=
  .object [("cells", .object (sheet.byLabel.toList.map fun (label, cell) => (label, cell.toJson)))]

/-- The sheet as indented data. -/
def toJsonText (sheet : Sheet) : String :=
  sheet.toJson.indented ++ "\n"

end Sheet

end Spreadsheet
