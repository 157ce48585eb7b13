import Spreadsheet.Formula.Lexer
import Spreadsheet.Json.Reader
import Spreadsheet.Sheet.Basic

/-!
# Sheet snapshots

A snapshot gives the formula of every cell under the cell's label, either as text or
as tokens that are taken as they are. It is read from an object with one member
`cells`; other members are passed over. Cells are loaded in the order of their label
texts, so of two labels that name one cell the greater one decides, and the first
label that fails is reported.
-/

namespace Spreadsheet

/-- A formula as it stands in a snapshot. -/
inductive FormulaSource where
  | text (formula : String)
  | tokens (formula : List String)
deriving DecidableEq, Repr

namespace FormulaSource

/-- The token texts of the formula. -/
def tokenize : FormulaSource → Except Formula.UnexpectedCharacter (List String)
  | .text formula => Formula.tokenize formula
  | .tokens formula => .ok formula

/-- The formula that a value describes: a text, or a list of texts. -/
def ofJson? : Json → Option FormulaSource
  | .text formula => some (.text formula)
  | .list items => (Json.list items).texts?.map .tokens
  | _ => none

end FormulaSource

/-- The formulas of a sheet under their labels. -/
abbrev Snapshot := Std.TreeMap String FormulaSource

/-- Why a snapshot cannot be loaded. -/
inductive LoadError where
  | badFormula (label : String) (problem : Formula.UnexpectedCharacter)
  | badLabel (label : String) (problem : LabelError)
deriving DecidableEq, Repr

namespace LoadError

/-- What could not be done. -/
def message : LoadError → String
  | .badFormula label _ => s!"Invalid formula in {label}"
  | .badLabel label _ => s!"Invalid cell '{label}'"

/-- The reason for which it could not be done. -/
def cause : LoadError → String
  | .badFormula _ problem => problem.message
  | .badLabel _ problem => problem.message

end LoadError

namespace Snapshot

/-- The snapshot that a list of labels and formulas gives; a repeated label keeps the
formula that comes last. -/
def ofMembers? (members : List (String × Json)) : Option Snapshot :=
  members.foldlM (fun snapshot (label, value) =>
    (FormulaSource.ofJson? value).map fun source => snapshot.insert label source) ∅

/-- The snapshot of a value that holds the cells. -/
def ofCells? : Json → Option Snapshot
  | .object members => ofMembers? members
  | _ => none

/-- The snapshot that a value describes: an object with `cells` exactly once, or a list
with the cells as its only item. -/
def ofJson? : Json → Option Snapshot
  | .object members =>
    match members.filter fun member => member.1 == "cells" with
    | [(_, cells)] => ofCells? cells
    | _ => none
  | .list [cells] => ofCells? cells
  | _ => none

/-- The snapshot that a text spells. -/
def read? (text : String) : Option Snapshot :=
  (Json.read? text).bind ofJson?

/-- One more cell of a snapshot. The formula is looked at before the label. -/
def loadCell (sheet : Sheet) : String × FormulaSource → Except LoadError Sheet
  | (label, source) =>
    match source.tokenize with
    | .error problem => .error (.badFormula label problem)
    | .ok formula => (sheet.setFormula label formula).mapError (.badLabel label)

/-- The sheet of a snapshot. -/
def load (snapshot : Snapshot) : Except LoadError Sheet :=
  snapshot.toList.foldlM loadCell .empty

end Snapshot

end Spreadsheet
