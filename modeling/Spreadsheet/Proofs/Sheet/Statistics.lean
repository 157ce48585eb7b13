import Mathlib.Data.Set.Card
import Spreadsheet.Proofs.Sheet.Calculation

/-!
# What the statistics count

The counters of a calculation are raised cell by cell, while the outcomes are still
coming in. Since an order names every cell once, no outcome is replaced later, and in
the end the counters are numbers of cells: those off cycles in the order, those on
cycles in the sheet, and those in the order whose final outcome carries an error. The
order and the list of circular cells name exactly the cells of certain sets, so the
counters are the sizes of these.
-/

namespace Spreadsheet

/-- Whether there is a cell at the address that carries an error. -/
def Sheet.reportsErrorAt (sheet : Sheet) (address : Address) : Bool :=
  (sheet.cell? address).any fun cell => !cell.outcome.isOk

namespace Calculation

/-! ## Marking -/

/-- Marking cells as circular counts none of them as calculated. -/
theorem calculated_foldl_markCircular (order : List Address) (calculation : Calculation) :
    (order.foldl markCircular calculation).calculated = calculation.calculated := by
  induction order generalizing calculation with
  | nil => rfl
  | cons address order inductionHypothesis =>
    rw [List.foldl_cons, inductionHypothesis]
    rfl

/-- Each cell that is marked as circular counts as one error. -/
theorem errors_foldl_markCircular (order : List Address) (calculation : Calculation) :
    (order.foldl markCircular calculation).errors = calculation.errors + order.length := by
  induction order generalizing calculation with
  | nil => rfl
  | cons address order inductionHypothesis =>
    have first : (calculation.markCircular address).errors = calculation.errors + 1 := rfl
    rw [List.foldl_cons, inductionHypothesis, first, List.length_cons]
    omega

/-! ## Evaluating -/

/-- Evaluating a cell adds and removes none. -/
theorem holds_evaluate (calculation : Calculation) (address other : Address) :
    (calculation.evaluate address).sheet.holds other = calculation.sheet.holds other :=
  Sheet.holds_congr (formula?_evaluate calculation address other)

/-- Evaluating a cell counts it as calculated. -/
theorem calculated_evaluate {calculation : Calculation} {address : Address}
    (holds : calculation.sheet.holds address = true) :
    (calculation.evaluate address).calculated = calculation.calculated + 1 := by
  obtain ⟨cell, held⟩ := Sheet.holds_iff.mp holds
  rw [evaluate, held]

/-- Evaluating a cell counts an error if the cell has one afterwards. -/
theorem errors_evaluate {calculation : Calculation} {address : Address}
    (holds : calculation.sheet.holds address = true) :
    (calculation.evaluate address).errors = calculation.errors +
      if (calculation.evaluate address).sheet.reportsErrorAt address then 1 else 0 := by
  obtain ⟨cell, held⟩ := Sheet.holds_iff.mp holds
  simp only [Sheet.reportsErrorAt, cell?_evaluate, if_true, held, Option.map_some, Option.any_some,
    Cell.withOutcome_outcome]
  simp only [evaluate, held]
  cases (Formula.evaluate calculation.sheet.store (Formula.classify cell.formula)).isOk <;> rfl

/-- Evaluating a list of cells counts each of them. -/
theorem calculated_foldl_evaluate {order : List Address} (calculation : Calculation)
    (holds : ∀ address ∈ order, calculation.sheet.holds address = true) :
    (order.foldl evaluate calculation).calculated = calculation.calculated + order.length := by
  induction order generalizing calculation with
  | nil => rfl
  | cons address order inductionHypothesis =>
    have later : ∀ other ∈ order, (calculation.evaluate address).sheet.holds other = true :=
      fun other member => (holds_evaluate calculation address other).trans
        (holds other (List.mem_cons_of_mem address member))
    rw [List.foldl_cons, inductionHypothesis _ later,
      calculated_evaluate (holds address List.mem_cons_self), List.length_cons]
    omega

/-- The errors that are counted are those of the final outcomes. -/
theorem errors_foldl_evaluate {order : List Address} (calculation : Calculation)
    (nodup : order.Nodup) (holds : ∀ address ∈ order, calculation.sheet.holds address = true) :
    (order.foldl evaluate calculation).errors = calculation.errors +
      order.countP (order.foldl evaluate calculation).sheet.reportsErrorAt := by
  induction order generalizing calculation with
  | nil => rfl
  | cons address order inductionHypothesis =>
    obtain ⟨unlisted, laterNodup⟩ := List.nodup_cons.mp nodup
    have later : ∀ other ∈ order, (calculation.evaluate address).sheet.holds other = true :=
      fun other member => (holds_evaluate calculation address other).trans
        (holds other (List.mem_cons_of_mem address member))
    -- The outcome of the first cell is final: the cell is not evaluated again.
    have final : (order.foldl evaluate (calculation.evaluate address)).sheet.reportsErrorAt address =
        (calculation.evaluate address).sheet.reportsErrorAt address := by
      rw [Sheet.reportsErrorAt, cell?_foldl_evaluate_of_not_mem _ unlisted]
      rfl
    rw [List.foldl_cons, inductionHypothesis _ laterNodup later,
      errors_evaluate (holds address List.mem_cons_self), List.countP_cons, final]
    omega

end Calculation

namespace Sheet

variable {sheet : Sheet} {options : CalculationOptions} {order : List Address} {address : Address}

/-! ## The whole calculation -/

/-- What is listed and marked as circular counts as an error. -/
theorem reportsErrorAt_of_mem_circularWith (holds : sheet.holds address = true)
    (listed : address ∈ order) (circular : address ∈ sheet.circularWith options) :
    (sheet.calculateInOrder order options).1.reportsErrorAt address = true := by
  obtain ⟨cell, held⟩ := holds_iff.mp holds
  rw [reportsErrorAt, cell?_of_mem_circularWith listed circular, held]
  rfl

namespace IsCalculationOrder

variable (isOrder : sheet.IsCalculationOrder options order)

include isOrder

/-- Marking leaves every cell in place that is to be evaluated. -/
theorem holds_marked :
    ∀ address ∈ sheet.evaluationOrder order options,
      (sheet.marked order options).sheet.holds address = true := by
  intro address member
  rw [holds_congr (formula?_marked address)]
  exact ((isOrder.mem_iff address).mp (List.mem_filter.mp member).1).1

/-- As many cells are calculated as are evaluated. -/
theorem calculated_eq :
    (sheet.calculateInOrder order options).2.calculated =
      (sheet.evaluationOrder order options).length := by
  have unmarked : (sheet.marked order options).calculated = 0 :=
    Calculation.calculated_foldl_markCircular _ _
  have counted := Calculation.calculated_foldl_evaluate _ isOrder.holds_marked
  rw [unmarked, Nat.zero_add] at counted
  exact counted

/-- The errors that marking counts are those of the cells it marks. -/
theorem errors_marked :
    (sheet.marked order options).errors =
      (order.filter (· ∈ sheet.circularWith options)).countP
        (sheet.calculateInOrder order options).1.reportsErrorAt := by
  have all : ∀ address ∈ order.filter (· ∈ sheet.circularWith options),
      (sheet.calculateInOrder order options).1.reportsErrorAt address = true := by
    intro address member
    obtain ⟨listed, circular⟩ := List.mem_filter.mp member
    exact reportsErrorAt_of_mem_circularWith ((isOrder.mem_iff address).mp listed).1 listed
      (of_decide_eq_true circular)
  rw [List.countP_eq_length.mpr all, marked, Calculation.errors_foldl_markCircular]
  exact Nat.zero_add _

/-- The errors are those of the cells in the order, as the calculation leaves them. -/
theorem errors_eq :
    (sheet.calculateInOrder order options).2.errors =
      order.countP (sheet.calculateInOrder order options).1.reportsErrorAt := by
  have evaluated := Calculation.errors_foldl_evaluate (sheet.marked order options)
    (isOrder.nodup.filter _) isOrder.holds_marked
  have parts := List.countP_eq_countP_filter_add order
    (sheet.calculateInOrder order options).1.reportsErrorAt (· ∈ sheet.circularWith options)
  simp only [← decide_not] at parts
  rw [parts, ← isOrder.errors_marked]
  exact evaluated

/-- The statistics of a calculation, as numbers of cells of its order and of the sheet. -/
theorem statistics_eq :
    (sheet.calculateInOrder order options).2 =
      { formulas := sheet.size
        calculated := (sheet.evaluationOrder order options).length
        circular := (sheet.circularWith options).length
        errors := order.countP (sheet.calculateInOrder order options).1.reportsErrorAt } := by
  rw [← isOrder.calculated_eq, ← isOrder.errors_eq]
  rfl

end IsCalculationOrder

/-! ## The cells that are counted -/

/-- The cells of the sheet. -/
def storedCells (sheet : Sheet) : Set Address :=
  {address | sheet.holds address = true}

/-- The cells that a calculation reaches from where it starts. -/
def affectedCells (sheet : Sheet) (options : CalculationOptions) : Set Address :=
  {address | sheet.holds address = true ∧ sheet.Affected options address}

/-- The cells on cycles, if a calculation looks for them. -/
def circularCells (sheet : Sheet) (options : CalculationOptions) : Set Address :=
  {address | options.detectCycles = true ∧ sheet.holds address = true ∧ sheet.OnCycle address}

/-- The cells that carry an error. -/
def failedCells (sheet : Sheet) : Set Address :=
  {address | ∃ cell, sheet.cell? address = some cell ∧ cell.outcome.error ≠ none}

/-- No address is found circular twice. -/
theorem nodup_circularAddresses (sheet : Sheet) : sheet.circularAddresses.Nodup :=
  Std.TreeMap.nodup_keys.filter _

/-- No address is marked as circular twice. -/
theorem nodup_circularWith (sheet : Sheet) (options : CalculationOptions) :
    (sheet.circularWith options).Nodup := by
  unfold circularWith
  split
  · exact sheet.nodup_circularAddresses
  · exact .nil

/-- The addresses that are marked are those of the circular cells. -/
theorem mem_circularWith_iff :
    address ∈ sheet.circularWith options ↔ address ∈ sheet.circularCells options := by
  unfold circularWith circularCells
  split
  · rename_i detecting
    simpa [detecting, mem_circularAddresses] using OnCycle.holds
  · rename_i trusting
    simp [trusting]

/-- An error is counted at an address if the cell there has failed. -/
theorem reportsErrorAt_iff : sheet.reportsErrorAt address = true ↔ address ∈ sheet.failedCells := by
  simp [reportsErrorAt, failedCells, Outcome.isOk, Option.any_eq_true, Option.isSome_iff_ne_none]

/-- Only stored cells fail. -/
theorem failedCells_subset : sheet.failedCells ⊆ sheet.storedCells := by
  rintro address ⟨cell, held, -⟩
  exact holds_iff.mpr ⟨cell, held⟩

/-- A list that names each cell of a set once is as long as the set is large. -/
theorem length_eq_encard {listed : List Address} {cells : Set Address} (nodup : listed.Nodup)
    (mem_iff : ∀ address, address ∈ listed ↔ address ∈ cells) :
    (listed.length : ℕ∞) = cells.encard := by
  have same : (listed.toFinset : Set Address) = cells := by
    rw [List.coe_toFinset]
    exact Set.ext mem_iff
  rw [← same, Set.encard_coe_eq_coe_finsetCard, List.toFinset_card_of_nodup nodup]

/-- A full calculation affects all stored cells. -/
theorem affectedCells_of_full (full : options.full = true) :
    sheet.affectedCells options = sheet.storedCells :=
  Set.ext fun _ => and_iff_left_of_imp (affected_of_full full)

/-- A calculation adds and removes no cell. -/
theorem storedCells_calculateInOrder :
    (sheet.calculateInOrder order options).1.storedCells = sheet.storedCells := by
  ext address
  exact Bool.eq_iff_iff.mp (holds_congr (formula?_calculateInOrder address))

/-- The number of formulas is that of the stored cells. -/
theorem formulas_eq_encard :
    ((sheet.calculateInOrder order options).2.formulas : ℕ∞) = sheet.storedCells.encard := by
  have counted : (sheet.calculateInOrder order options).2.formulas = sheet.addresses.length :=
    Std.TreeMap.length_keys.symm
  rw [counted]
  exact length_eq_encard Std.TreeMap.nodup_keys fun _ => mem_addresses

/-- The circular count is that of the cells on cycles, where these are looked for. -/
theorem circular_eq_encard :
    ((sheet.calculateInOrder order options).2.circular : ℕ∞) =
      (sheet.circularCells options).encard :=
  length_eq_encard (sheet.nodup_circularWith options) fun _ => mem_circularWith_iff

namespace IsCalculationOrder

variable (isOrder : sheet.IsCalculationOrder options order)

include isOrder

/-- The number of calculated cells is that of the affected ones which are not circular. -/
theorem calculated_eq_encard :
    ((sheet.calculateInOrder order options).2.calculated : ℕ∞) =
      (sheet.affectedCells options \ sheet.circularCells options).encard := by
  rw [isOrder.calculated_eq]
  refine length_eq_encard (isOrder.nodup.filter _) fun address => ?_
  rw [evaluationOrder, List.mem_filter, decide_eq_true_eq, isOrder.mem_iff, mem_circularWith_iff]
  rfl

/-- The number of errors is that of the affected cells which have failed in the end. -/
theorem errors_eq_encard :
    ((sheet.calculateInOrder order options).2.errors : ℕ∞) =
      (sheet.affectedCells options ∩
        (sheet.calculateInOrder order options).1.failedCells).encard := by
  rw [isOrder.errors_eq, List.countP_eq_length_filter]
  refine length_eq_encard (isOrder.nodup.filter _) fun address => ?_
  rw [List.mem_filter, isOrder.mem_iff, reportsErrorAt_iff]
  rfl

/-- A full calculation evaluates every cell that it does not find on a cycle. -/
theorem calculated_add_circular (full : options.full = true) :
    (sheet.calculateInOrder order options).2.calculated +
        (sheet.calculateInOrder order options).2.circular =
      (sheet.calculateInOrder order options).2.formulas := by
  have onSheet : sheet.circularCells options ⊆ sheet.storedCells := fun _ onCycle => onCycle.2.1
  have parts := Set.encard_sdiff_add_encard_of_subset onSheet
  rw [← affectedCells_of_full full, ← isOrder.calculated_eq_encard, affectedCells_of_full full,
    ← circular_eq_encard, ← formulas_eq_encard] at parts
  exact_mod_cast parts

/-- A full calculation counts every error of the sheet. -/
theorem errors_eq_encard_of_full (full : options.full = true) :
    ((sheet.calculateInOrder order options).2.errors : ℕ∞) =
      (sheet.calculateInOrder order options).1.failedCells.encard := by
  rw [isOrder.errors_eq_encard, affectedCells_of_full full, ← storedCells_calculateInOrder,
    Set.inter_eq_right.mpr failedCells_subset]

end IsCalculationOrder

/-- The statistics of a calculation count cells, in whatever order dependents are looked at:
those of the sheet, those on cycles, those that the calculation reaches and that are on no cycle
it has found, and those that it reaches and that carry an error afterwards. A full calculation
reaches every cell, so it evaluates all that it does not find on cycles, and it counts every
error there is. -/
theorem calculate_statistics (sheet : Sheet) {dependentsOf : Address → List Address}
    (enumerates : sheet.graph.Enumerates dependentsOf) (options : CalculationOptions) :
    let result := sheet.calculateBy dependentsOf options
    (result.2.formulas : ℕ∞) = sheet.storedCells.encard ∧
    (result.2.circular : ℕ∞) = (sheet.circularCells options).encard ∧
    (result.2.calculated : ℕ∞) =
      (sheet.affectedCells options \ sheet.circularCells options).encard ∧
    (result.2.errors : ℕ∞) = (sheet.affectedCells options ∩ result.1.failedCells).encard ∧
    (options.full = true →
      result.2.calculated + result.2.circular = result.2.formulas ∧
      (result.2.errors : ℕ∞) = result.1.failedCells.encard) := by
  intro result
  have isOrder := isCalculationOrder_calculationOrder enumerates options
  refine ⟨formulas_eq_encard, circular_eq_encard, isOrder.calculated_eq_encard,
    isOrder.errors_eq_encard, fun full => ?_⟩
  exact ⟨isOrder.calculated_add_circular full, isOrder.errors_eq_encard_of_full full⟩

/-- A cycle of two cells that nothing selects, a reader of it, a cell that reads itself, and a
removed cell with a reader; only what changed is calculated, and then everything. -/
theorem calculate_statistics_seven_cells :
    let settled := (((((empty.setFormulaAt ⟨0, 0⟩ ["B1"]).setFormulaAt ⟨0, 1⟩ ["A1"]).setFormulaAt
      ⟨0, 2⟩ ["A1", "+", "D1"]).setFormulaAt ⟨0, 4⟩ ["D1", "/", "0"]).setFormulaAt ⟨0, 6⟩
      ["2"]).clearDirty
    let sheet := (((settled.setFormulaAt ⟨0, 3⟩ ["2"]).setFormulaAt ⟨0, 5⟩ ["F1"]).removeAt
      ⟨0, 6⟩).put ⟨0, 7⟩ { formula := ["G1"], outcome := .zero (.other "old") }
    let dependentsOf : Address → List Address := fun address =>
      (sheet.graph.dependentsOf address).reverse
    let partially : CalculationOptions := { full := false, detectCycles := true }
    let fully : CalculationOptions := { full := true, detectCycles := true }
    let changed := sheet.calculateBy dependentsOf partially
    let whole := sheet.calculateBy dependentsOf fully
    sheet.graph.Enumerates dependentsOf ∧ fully.full = true ∧
    changed.2 = { formulas := 7, calculated := 4, circular := 3, errors := 3 } ∧
    (sheet.circularCells partially).encard = 3 ∧
    (sheet.affectedCells partially \ sheet.circularCells partially).encard = 4 ∧
    (sheet.affectedCells partially ∩ changed.1.failedCells).encard = 3 ∧
    whole.2 = { formulas := 7, calculated := 4, circular := 3, errors := 6 } ∧
    sheet.storedCells.encard = 7 ∧ whole.2.calculated + whole.2.circular = whole.2.formulas ∧
    whole.1.failedCells.encard = 6 := by
  intro settled sheet dependentsOf partially fully changed whole
  have enumerates : sheet.graph.Enumerates dependentsOf := fun _ _ => List.mem_reverse
  have counts : changed.2 = { formulas := 7, calculated := 4, circular := 3, errors := 3 } := by
    decide +kernel
  have wholeCounts : whole.2 = { formulas := 7, calculated := 4, circular := 3, errors := 6 } := by
    decide +kernel
  obtain ⟨-, circular, calculated, errors, -⟩ := calculate_statistics sheet enumerates partially
  obtain ⟨formulas, -, -, -, ofFull⟩ := calculate_statistics sheet enumerates fully
  obtain ⟨total, allErrors⟩ := ofFull rfl
  refine ⟨enumerates, rfl, counts, ?_, ?_, ?_, wholeCounts, ?_, total, ?_⟩
  · rw [← circular, counts]
    rfl
  · rw [← calculated, counts]
    rfl
  · rw [← errors, counts]
    rfl
  · rw [← formulas, wholeCounts]
    rfl
  · rw [← allErrors, wholeCounts]
    rfl

end Sheet

end Spreadsheet
