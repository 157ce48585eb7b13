import Spreadsheet.Address.Label
import Spreadsheet.Cell.Basic
import Spreadsheet.Store
import Std.Data.TreeMap
import Std.Data.TreeSet

/-!
# Sheets

A sheet keeps cells under their addresses. Setting, inserting or removing a cell
marks its address as dirty, so that a calculation can be limited to what changed;
storing an outcome marks nothing.
-/

namespace Spreadsheet

/-- Cells by address, and the addresses whose formula changed. -/
structure Sheet where
  cells : Std.TreeMap Address Cell := ∅
  dirty : Std.TreeSet Address := ∅

namespace Sheet

/-- The sheet without cells. -/
def empty : Sheet := {}

/-- The cell at an address. -/
def cell? (sheet : Sheet) (address : Address) : Option Cell :=
  sheet.cells[address]?

/-- Whether there is a cell at an address. -/
def holds (sheet : Sheet) (address : Address) : Bool :=
  sheet.cells.contains address

/-- The number of cells. -/
def size (sheet : Sheet) : Nat :=
  sheet.cells.size

/-- Whether the sheet has no cells. -/
def isEmpty (sheet : Sheet) : Bool :=
  sheet.cells.isEmpty

/-- The cells with their addresses, row by row. -/
def entries (sheet : Sheet) : List (Address × Cell) :=
  sheet.cells.toList

/-- The addresses of the cells, row by row. -/
def addresses (sheet : Sheet) : List Address :=
  sheet.cells.keys

/-- The dirty addresses, row by row. -/
def dirtyAddresses (sheet : Sheet) : List Address :=
  sheet.dirty.toList

/-- Puts a cell at an address and marks the address. -/
def put (sheet : Sheet) (address : Address) (cell : Cell) : Sheet where
  cells := sheet.cells.insert address cell
  dirty := sheet.dirty.insert address

/-- Sets the formula at an address, within the sheet's bounds or not. The outcome is
that of a new cell. -/
def setFormulaAt (sheet : Sheet) (address : Address) (formula : List String) : Sheet :=
  sheet.put address (.ofFormula formula)

/-- Sets the formula of a cell. -/
def setFormula (sheet : Sheet) (label : String) (formula : List String) :
    Except LabelError Sheet :=
  (Address.ofLabel label).map fun address => sheet.setFormulaAt address formula

/-- Puts a cell with its stored outcome. -/
def insert (sheet : Sheet) (label : String) (cell : Cell) : Except LabelError Sheet :=
  (Address.ofLabel label).map fun address => sheet.put address cell

/-- Stores an outcome in a cell, and says whether there is one; where there is none, nothing
happens. -/
def setOutcome (sheet : Sheet) (address : Address) (outcome : Outcome) : Bool × Sheet :=
  (sheet.holds address,
    { sheet with cells := sheet.cells.modify address fun cell => cell.withOutcome outcome })

/-- Removes the cell at an address. Only a cell that was there marks its address. -/
def removeAt (sheet : Sheet) (address : Address) : Sheet :=
  if sheet.holds address then
    { cells := sheet.cells.erase address, dirty := sheet.dirty.insert address }
  else
    sheet

/-- Removes a cell, which is returned if it was there. -/
def clear (sheet : Sheet) (label : String) : Except LabelError (Option Cell × Sheet) :=
  (Address.ofLabel label).map fun address => (sheet.cell? address, sheet.removeAt address)

/-- Forgets what changed. -/
def clearDirty (sheet : Sheet) : Sheet :=
  { sheet with dirty := ∅ }

/-- The sheet as a store: labels of every spelling are read as addresses. -/
def store (sheet : Sheet) : Store :=
  fun label => (Address.ofLabel? label).bind sheet.cell?

end Sheet

end Spreadsheet
