import Spreadsheet.Dependency.Graph
import Spreadsheet.Formula.Evaluation
import Spreadsheet.Sheet.Basic

/-!
# Calculating a sheet

A calculation evaluates either every cell or the dirty cells and everything that
reads them. Each cell is evaluated once, after the cells that it reads. Cells on a
reference cycle have no such order; unless their detection is switched off they get
the circular reference error before anything is evaluated.
-/

namespace Spreadsheet

/-- The addresses that a cell's formula refers to. -/
def Cell.precedents (cell : Cell) : List Address :=
  (Formula.references (Formula.classify cell.formula)).filterMap Address.ofLabel?

/-- What is calculated and how. -/
structure CalculationOptions where
  /-- Every cell is calculated, not only what changed. -/
  full : Bool := true
  /-- Cells on a reference cycle are marked instead of evaluated. -/
  detectCycles : Bool := true
deriving DecidableEq, Repr

/-- What a calculation did. -/
structure CalculationStatistics where
  /-- The number of cells in the sheet. -/
  formulas : Nat
  /-- The number of cells that were evaluated. -/
  calculated : Nat
  /-- The number of cells found on a reference cycle, calculated or not. -/
  circular : Nat
  /-- The number of results that carry an error. -/
  errors : Nat
deriving DecidableEq, Repr

/-- A calculation under way. -/
structure Calculation where
  sheet : Sheet
  calculated : Nat := 0
  errors : Nat := 0

namespace Calculation

/-- Marks a cell of a reference cycle. -/
def markCircular (calculation : Calculation) (address : Address) : Calculation where
  sheet := (calculation.sheet.setOutcome address (.zero .circularReference)).2
  calculated := calculation.calculated
  errors := calculation.errors + 1

/-- Evaluates a cell against the sheet as it is now and stores the outcome. -/
def evaluate (calculation : Calculation) (address : Address) : Calculation :=
  match calculation.sheet.cell? address with
  | none => calculation
  | some cell =>
    let outcome := Formula.evaluate calculation.sheet.store (Formula.classify cell.formula)
    { sheet := (calculation.sheet.setOutcome address outcome).2
      calculated := calculation.calculated + 1
      errors := if outcome.isOk then calculation.errors else calculation.errors + 1 }

end Calculation

namespace Sheet

/-- Which cell of the sheet reads which address. -/
def references (sheet : Sheet) : List (Address × Address) :=
  sheet.entries.flatMap fun (address, cell) =>
    cell.precedents.map fun precedent => (precedent, address)

/-- The reference graph of the sheet. -/
def graph (sheet : Sheet) : Dependency.Graph :=
  .ofEdges sheet.references

/-- The cells that read themselves, directly or through others. -/
def circularAddresses (sheet : Sheet) : List Address :=
  sheet.addresses.filter sheet.graph.isCircular

/-- The cells from which a calculation starts. -/
def selectedAddresses (sheet : Sheet) (options : CalculationOptions) : List Address :=
  if options.full then sheet.addresses else sheet.dirtyAddresses

/-- The cells that a calculation gives a new outcome, in order. `dependentsOf` says in
which order the dependents of a cell are looked at. -/
def calculationOrder (sheet : Sheet) (dependentsOf : Address → List Address)
    (options : CalculationOptions) : List Address :=
  (sheet.graph.orderBy dependentsOf (sheet.selectedAddresses options)).filter sheet.holds

/-- Gives the cells of a calculation order their outcomes. Cells on a cycle come first,
so that the cells reading them see the error; afterwards nothing is dirty. -/
def calculateInOrder (sheet : Sheet) (order : List Address) (options : CalculationOptions) :
    Sheet × CalculationStatistics :=
  let circular := if options.detectCycles then sheet.circularAddresses else []
  let marked := (order.filter (· ∈ circular)).foldl Calculation.markCircular { sheet }
  let finished := (order.filter (· ∉ circular)).foldl Calculation.evaluate marked
  (finished.sheet.clearDirty,
    { formulas := sheet.size
      calculated := finished.calculated
      circular := circular.length
      errors := finished.errors })

/-- Calculates the sheet, with the dependents of a cell looked at in the order given. -/
def calculateBy (sheet : Sheet) (dependentsOf : Address → List Address)
    (options : CalculationOptions) : Sheet × CalculationStatistics :=
  sheet.calculateInOrder (sheet.calculationOrder dependentsOf options) options

/-- Calculates the sheet. -/
def calculate (sheet : Sheet) (options : CalculationOptions := {}) :
    Sheet × CalculationStatistics :=
  sheet.calculateBy sheet.graph.dependentsOf options

end Sheet

end Spreadsheet
