import Spreadsheet.Cell.Basic
import Spreadsheet.Json.Reader
import Spreadsheet.Json.Writer

/-!
# Cells as data

A cell is written as an object with the members `formula`, `value` and, when
something was wrong, `error`. The format has no infinities, so a value that is not
finite travels as the text `inf`, `-inf` or `NaN`. When a cell is read every member
may be absent, the members may also stand in a list in their order, and an empty
error text is refused. So are a number too large to hold and, in a text, a member of
the cell that is given twice.
-/

namespace Spreadsheet.Cell

/-- A cell's value as data. -/
def valueToJson (value : Float) : Json :=
  match value.toModel.unpack with
  | .notANumber => .text "NaN"
  | .infinity .positive => .text "inf"
  | .infinity .negative => .text "-inf"
  | _ => .number value

/-- The members of a cell. -/
def members (cell : Cell) : List (String × Json) :=
  [("formula", .list (cell.formula.map .text)), ("value", valueToJson cell.outcome.value)] ++
    (cell.outcome.error.map fun error => ("error", Json.text error.text)).toList

/-- A cell as data. -/
def toJson (cell : Cell) : Json :=
  .object cell.members

/-- The text of a cell. -/
def text (cell : Cell) : String :=
  cell.toJson.compact

/-- A cell's value: a number that can be held, or the text of any number. -/
def readValue? : Json → Option Float
  | .number value => if value.isFinite then some value else none
  | .text text => Decimal.readFloat? text.toList
  | _ => none

/-- A cell's error: absent, or the text of one. -/
def readError? : Json → Option (Option CellError)
  | .null => some none
  | .text text => (CellError.ofText? text).map some
  | _ => none

/-- A member that may be absent. -/
def readMember? {Content : Type} (read : Json → Option Content) (absent : Content) :
    Option Json → Option Content
  | none => some absent
  | some content => read content

/-- A cell from its members, each of which may be absent. -/
def ofMembers? (formula value error : Option Json) : Option Cell := do
  let formula ← readMember? Json.texts? [] formula
  let value ← readMember? readValue? 0.0 value
  let error ← readMember? readError? none error
  return { formula, outcome := { value, error } }

/-- The cell that a value describes. -/
def ofJson? : Json → Option Cell
  | .object members =>
    ofMembers? (Json.member? "formula" members) (Json.member? "value" members)
      (Json.member? "error" members)
  | .list items => if items.length ≤ 3 then ofMembers? items[0]? items[1]? items[2]? else none
  | _ => none

/-- Whether no member of a cell is given twice. -/
def isUnrepeated : Json → Bool
  | .object members =>
    ["formula", "value", "error"].all fun name =>
      (members.filter fun member => member.1 == name).length ≤ 1
  | _ => true

/-- The cell that a text spells. -/
def read? (text : String) : Option Cell := do
  let record ← Json.read? text
  if isUnrepeated record then ofJson? record else none

end Spreadsheet.Cell
