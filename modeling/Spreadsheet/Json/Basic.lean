import Spreadsheet.Decimal.Numeral

/-!
# JSON values

The values of the data format in which cells and sheets are exchanged. Members of
an object keep the order in which they were written.
-/

namespace Spreadsheet

/-- A value of the data format. -/
inductive Json where
  | null
  | bool (truth : Bool)
  | number (value : Float)
  | text (value : String)
  | list (items : List Json)
  | object (members : List (String × Json))
  /-- A string, or an object with a member name, that spells half of a surrogate
  pair: well formed, but no text holds it. -/
  | unrepresentable

namespace Json

/-- The last member of a name among the members of an object. -/
def member? (name : String) (members : List (String × Json)) : Option Json :=
  (members.reverse.find? fun member => member.1 == name).map Prod.snd

/-- The text of a value that is one. -/
def text? : Json → Option String
  | .text value => some value
  | _ => none

/-- The texts of a list that holds only texts. -/
def texts? : Json → Option (List String)
  | .list items => items.mapM text?
  | _ => none

end Json

end Spreadsheet
