import Mathlib.Data.List.Forall2
import Mathlib.Data.Option.Defs
import Spreadsheet.Proofs.Formula.Spelling
import Spreadsheet.Proofs.Sheet.Determinacy
import Spreadsheet.Proofs.Sheet.Statistics

/-!
# The spelling of references does not matter

Labels are read where formulas are classified, where the reference graph is built and where cells
are looked up. All three read the canonical spelling of a reference like the spelling it has, so
a sheet and its canonical form read alike and are settled alike. Two sheets that differ in
spellings have canonical forms with the same cells, so what a calculation settles on them is the
same, and what it leaves alone was the same before.
-/

namespace Spreadsheet

attribute [ext] CalculationStatistics

/-! ## Canonical cells and sheets -/

namespace Cell

/-- Two cells have the same outcome, and formulas that differ at most in how they spell
references. -/
structure Respells (left right : Cell) : Prop where
  formula : List.Forall₂ Token.Respells left.formula right.formula
  outcome : left.outcome = right.outcome

/-- The cell with its references in their canonical spelling. -/
def canonical (cell : Cell) : Cell :=
  { cell with formula := Formula.canonicalSpelling cell.formula }

@[simp] theorem canonical_outcome (cell : Cell) : cell.canonical.outcome = cell.outcome := rfl

/-- Cells that differ in spellings only have one canonical form. -/
theorem Respells.canonical_eq {left right : Cell} (respells : left.Respells right) :
    left.canonical = right.canonical := by
  rw [canonical, canonical, Formula.canonicalSpelling_eq_of_respells respells.formula,
    respells.outcome]

/-- Places that differ in spellings only have one canonical form, also where there is no cell. -/
theorem map_canonical_eq {left right : Option Cell} (alike : Option.Rel Respells left right) :
    left.map canonical = right.map canonical := by
  cases alike with
  | none => rfl
  | some respells => exact congrArg some respells.canonical_eq

/-- A cell in canonical spelling reads the addresses that the cell reads. -/
theorem precedents_canonical (cell : Cell) : cell.canonical.precedents = cell.precedents := by
  simp only [precedents, canonical, Formula.classify_canonicalSpelling,
    Formula.references_map_relabel, List.filterMap_map, Function.comp_def,
    Token.ofLabel?_canonicalSpelling]

end Cell

namespace Sheet

/-- Two sheets differ at most in how their formulas spell references. -/
structure Respells (left right : Sheet) : Prop where
  mem_dirty : ∀ address, address ∈ left.dirty ↔ address ∈ right.dirty
  cells : ∀ address, Option.Rel Cell.Respells (left.cell? address) (right.cell? address)

/-- The sheet with all references in their canonical spelling. -/
def canonical (sheet : Sheet) : Sheet where
  cells := sheet.cells.map fun _ cell => cell.canonical
  dirty := sheet.dirty

variable {sheet left right : Sheet} {address precedent : Address}

/-- The canonical sheet has the canonical cells. -/
theorem cell?_canonical (sheet : Sheet) (address : Address) :
    sheet.canonical.cell? address = (sheet.cell? address).map Cell.canonical :=
  Std.TreeMap.getElem?_map

/-- The canonical sheet has the formulas in canonical spelling. -/
theorem formula?_canonical (sheet : Sheet) (address : Address) :
    sheet.canonical.formula? address =
      (sheet.formula? address).map Formula.canonicalSpelling := by
  rw [formula?, cell?_canonical, formula?, Option.map_map, Option.map_map]
  rfl

/-- The canonical sheet has its cells at the addresses of the sheet. -/
theorem holds_canonical (sheet : Sheet) (address : Address) :
    sheet.canonical.holds address = sheet.holds address :=
  Std.TreeMap.contains_map

/-- In the canonical sheet the same addresses read each other. -/
theorem reads_canonical (sheet : Sheet) : sheet.canonical.Reads = sheet.Reads := by
  funext reader precedent
  simp only [Reads, cell?_canonical, Option.map_eq_some_iff, eq_iff_iff]
  constructor
  · rintro ⟨_, ⟨cell, held, rfl⟩, refers⟩
    exact ⟨cell, held, cell.precedents_canonical ▸ refers⟩
  · rintro ⟨cell, held, refers⟩
    exact ⟨cell.canonical, ⟨cell, held, rfl⟩, cell.precedents_canonical.symm ▸ refers⟩

/-- In the canonical sheet the same cells are on cycles. -/
theorem onCycle_canonical : sheet.canonical.OnCycle address ↔ sheet.OnCycle address := by
  rw [OnCycle, OnCycle, reads_canonical]

/-- A label in its canonical spelling is resolved on the canonical sheet as it is on the sheet. -/
theorem resolve_store_canonical (sheet : Sheet) (label : String) :
    sheet.canonical.store.resolve (Token.canonicalSpelling label) = sheet.store.resolve label := by
  have found : sheet.canonical.store (Token.canonicalSpelling label) =
      (sheet.store label).map Cell.canonical := by
    rw [store, store, Token.ofLabel?_canonicalSpelling]
    cases Address.ofLabel? label with
    | none => rfl
    | some address => exact sheet.cell?_canonical address
  rw [Store.resolve, Store.resolve, found]
  cases sheet.store label with
  | none => rfl
  | some cell => simp [Cell.canonical, Formula.canonicalSpelling]

/-- A cell in canonical spelling evaluates on the canonical sheet as the cell does on the sheet. -/
theorem evaluate_canonical (sheet : Sheet) (cell : Cell) :
    Formula.evaluate sheet.canonical.store (Formula.classify cell.canonical.formula) =
      Formula.evaluate sheet.store (Formula.classify cell.formula) := by
  rw [Cell.canonical, Formula.classify_canonicalSpelling, Formula.evaluate_map_relabel]
  exact Formula.evaluate_congr_of_resolve fun label _ => sheet.resolve_store_canonical label

/-- What is settled on a sheet is settled on its canonical form. -/
theorem SettledAt.canonical (settled : sheet.SettledAt address) :
    sheet.canonical.SettledAt address := by
  intro spelled held
  rw [cell?_canonical] at held
  obtain ⟨cell, cellHeld, rfl⟩ := Option.map_eq_some_iff.mp held
  obtain ⟨circular, evaluated⟩ := settled cell cellHeld
  rw [onCycle_canonical, Cell.canonical_outcome, evaluate_canonical]
  exact ⟨circular, evaluated⟩

/-! ## Sheets that differ in spellings -/

namespace Respells

variable {options : CalculationOptions} (respells : left.Respells right)

include respells

/-- The canonical forms hold the same cells. -/
theorem cell?_canonical_eq (address : Address) :
    left.canonical.cell? address = right.canonical.cell? address := by
  rw [cell?_canonical, cell?_canonical]
  exact Cell.map_canonical_eq (respells.cells address)

/-- Sheets that differ in spellings only have the same formulas in canonical spelling. -/
theorem formula?_canonical_eq (address : Address) :
    left.canonical.formula? address = right.canonical.formula? address :=
  congrArg (Option.map Cell.formula) (respells.cell?_canonical_eq address)

/-- Sheets that differ in spellings only have cells at the same addresses. -/
theorem holds_eq (address : Address) : left.holds address = right.holds address := by
  rw [← left.holds_canonical, ← right.holds_canonical]
  exact holds_congr (respells.formula?_canonical_eq address)

/-- In sheets that differ in spellings only the same addresses read each other. -/
theorem reads_eq : left.Reads = right.Reads := by
  rw [← left.reads_canonical, ← right.reads_canonical]
  funext reader precedent
  simp only [Reads, respells.cell?_canonical_eq]

/-- In sheets that differ in spellings only the same cells are affected. -/
theorem affected_iff : left.Affected options address ↔ right.Affected options address := by
  have selected (start : Address) :
      start ∈ left.selectedAddresses options ↔ start ∈ right.selectedAddresses options := by
    unfold selectedAddresses
    split
    · rw [mem_addresses, mem_addresses, respells.holds_eq]
    · rw [mem_dirtyAddresses, mem_dirtyAddresses, respells.mem_dirty]
  simp only [Affected, DependsOn, selected, respells.reads_eq]

/-! ## Calculations of both -/

/-- In sheets that differ in spellings only the same cells are on cycles. -/
theorem onCycle_iff : left.OnCycle address ↔ right.OnCycle address := by
  rw [OnCycle, OnCycle, respells.reads_eq]

section Calculations

variable {leftOrder rightOrder : List Address} (detecting : options.detectCycles = true)
  (leftIsOrder : left.IsCalculationOrder options leftOrder)
  (rightIsOrder : right.IsCalculationOrder options rightOrder)

include detecting leftIsOrder rightIsOrder

/-- Calculations leave cells that have the same canonical form. -/
theorem cell?_canonical_calculateInOrder (address : Address) :
    (left.calculateInOrder leftOrder options).1.canonical.cell? address =
      (right.calculateInOrder rightOrder options).1.canonical.cell? address := by
  refine cell?_eq_of_same_or_settled (fun other _ => ?_) fun other _ => ?_
  · rw [formula?_canonical, formula?_canonical, formula?_calculateInOrder,
      formula?_calculateInOrder, ← formula?_canonical, ← formula?_canonical,
      respells.formula?_canonical_eq]
  -- Both calculations affect the same cells, and the others are as they were.
  · by_cases affected : left.Affected options other
    · have rightAffected : right.Affected options other := respells.affected_iff.mp affected
      exact .inr ⟨(leftIsOrder.settledAt detecting affected).canonical,
        (rightIsOrder.settledAt detecting rightAffected).canonical⟩
    · have rightUnaffected : ¬ right.Affected options other := fun reached =>
        affected (respells.affected_iff.mpr reached)
      left
      rw [cell?_canonical, cell?_canonical, leftIsOrder.cell?_of_not_affected affected,
        rightIsOrder.cell?_of_not_affected rightUnaffected, ← cell?_canonical, ← cell?_canonical,
        respells.cell?_canonical_eq]

/-- Calculations leave the same outcome in every cell. -/
theorem outcome_calculateInOrder (address : Address) :
    ((left.calculateInOrder leftOrder options).1.cell? address).map Cell.outcome =
      ((right.calculateInOrder rightOrder options).1.cell? address).map Cell.outcome := by
  have spelled (sheet : Sheet) : (sheet.canonical.cell? address).map Cell.outcome =
      (sheet.cell? address).map Cell.outcome := by
    rw [cell?_canonical, Option.map_map]
    rfl
  rw [← spelled, respells.cell?_canonical_calculateInOrder detecting leftIsOrder rightIsOrder,
    spelled]

/-- On sheets that differ in spellings only the same cells fail in a calculation. -/
theorem failedCells_calculateInOrder :
    (left.calculateInOrder leftOrder options).1.failedCells =
      (right.calculateInOrder rightOrder options).1.failedCells := by
  have failed (sheet : Sheet) (address : Address) : address ∈ sheet.failedCells ↔
      ∃ outcome, (sheet.cell? address).map Cell.outcome = some outcome ∧ outcome.error ≠ none := by
    simp [failedCells]
  ext address
  rw [failed, failed, respells.outcome_calculateInOrder detecting leftIsOrder rightIsOrder]

/-- Calculations count alike: what they count are the same cells. -/
theorem statistics_calculateInOrder :
    (left.calculateInOrder leftOrder options).2 =
      (right.calculateInOrder rightOrder options).2 := by
  have stored : left.storedCells = right.storedCells := by
    simp only [storedCells, respells.holds_eq]
  have circular : left.circularCells options = right.circularCells options := by
    simp only [circularCells, respells.holds_eq, respells.onCycle_iff]
  have affected : left.affectedCells options = right.affectedCells options := by
    simp only [affectedCells, respells.holds_eq, respells.affected_iff]
  have failed := respells.failedCells_calculateInOrder detecting leftIsOrder rightIsOrder
  ext <;> rw [← ENat.natCast_inj]
  · rw [formulas_eq_encard, formulas_eq_encard, stored]
  · rw [leftIsOrder.calculated_eq_encard, rightIsOrder.calculated_eq_encard, affected, circular]
  · rw [circular_eq_encard, circular_eq_encard, circular]
  · rw [leftIsOrder.errors_eq_encard, rightIsOrder.errors_eq_encard, affected, failed]

end Calculations

/-! ## Edits of both -/

/-- Two cells that differ in spellings only may be stored at the same address. -/
theorem put {leftCell rightCell : Cell} (cells : leftCell.Respells rightCell)
    (address : Address) : (left.put address leftCell).Respells (right.put address rightCell) where
  mem_dirty other := by
    rw [mem_dirty_put, mem_dirty_put, respells.mem_dirty]
  cells other := by
    rw [cell?_put, cell?_put]
    split
    · exact .some cells
    · exact respells.cells other

/-- The dirty addresses may be forgotten on both sheets. -/
theorem clearDirty : left.clearDirty.Respells right.clearDirty where
  mem_dirty _ := Iff.rfl
  cells := respells.cells

end Respells

/-- The empty sheet differs in no spelling from itself. -/
theorem respells_empty : empty.Respells empty where
  mem_dirty _ := Iff.rfl
  cells address := by
    rw [cell?_empty]
    exact .none

/-- Two sheets whose formulas differ token by token only in the labels by which they name a cell,
with the same dirty addresses and the same outcomes stored, are calculated with the same statistics
and come out with the same outcome in every cell. This holds of full and of incremental
calculations with cycle detection, in whatever orders dependents are looked at. -/
theorem calculate_respelled {left right : Sheet} (respells : left.Respells right)
    {leftDependents rightDependents : Address → List Address}
    (leftEnumerates : left.graph.Enumerates leftDependents)
    (rightEnumerates : right.graph.Enumerates rightDependents)
    {options : CalculationOptions} (detecting : options.detectCycles = true) :
    let leftResult := left.calculateBy leftDependents options
    let rightResult := right.calculateBy rightDependents options
    leftResult.2 = rightResult.2 ∧
    ∀ address, (leftResult.1.cell? address).map Cell.outcome =
      (rightResult.1.cell? address).map Cell.outcome := by
  intro leftResult rightResult
  have leftIsOrder := isCalculationOrder_calculationOrder leftEnumerates options
  have rightIsOrder := isCalculationOrder_calculationOrder rightEnumerates options
  constructor
  · exact respells.statistics_calculateInOrder detecting leftIsOrder rightIsOrder
  · exact respells.outcome_calculateInOrder detecting leftIsOrder rightIsOrder

/-- A cell that is set again is read by another and, through it, by a cycle; only what changed is
calculated. One cell names another in two ways in the same formula. -/
theorem calculate_respelled_cycle :
    let stale : Outcome := ⟨9.0, some (.other "old")⟩
    let left := (((empty.put ⟨0, 0⟩ ⟨["B1", "*", "B1"], stale⟩).put ⟨0, 2⟩ ⟨["D1"], stale⟩).put
      ⟨0, 3⟩ ⟨["C1", "+", "A1"], stale⟩).clearDirty.put ⟨0, 1⟩ ⟨["3"], stale⟩
    let right := (((empty.put ⟨0, 0⟩ ⟨["b1", "*", "B01"], stale⟩).put ⟨0, 2⟩ ⟨["d001"], stale⟩).put
      ⟨0, 3⟩ ⟨["c1", "+", "a01"], stale⟩).clearDirty.put ⟨0, 1⟩ ⟨["3"], stale⟩
    let rightDependents : Address → List Address := fun address =>
      (right.graph.dependentsOf address).reverse
    let options : CalculationOptions := { full := false, detectCycles := true }
    let leftResult := left.calculateBy left.graph.dependentsOf options
    let rightResult := right.calculateBy rightDependents options
    left.Respells right ∧ left.graph.Enumerates left.graph.dependentsOf ∧
    right.graph.Enumerates rightDependents ∧ options.detectCycles = true ∧
    leftResult.1.entries.map (fun entry => entry.2.outcome) =
      [⟨9.0, none⟩, ⟨3.0, none⟩, ⟨0.0, some .circularReference⟩,
        ⟨0.0, some .circularReference⟩] ∧
    leftResult.2 = rightResult.2 ∧
    ∀ address, (leftResult.1.cell? address).map Cell.outcome =
      (rightResult.1.cell? address).map Cell.outcome := by
  intro stale left right rightDependents options leftResult rightResult
  have product : List.Forall₂ Token.Respells ["B1", "*", "B1"] ["b1", "*", "B01"] :=
    .cons (.label (by decide +kernel : Address.ofLabel "B1" = .ok ⟨0, 1⟩) (by decide +kernel))
      (.cons (.same "*")
        (.cons (.label (by decide +kernel : Address.ofLabel "B1" = .ok ⟨0, 1⟩) (by decide +kernel))
          .nil))
  have reference : List.Forall₂ Token.Respells ["D1"] ["d001"] :=
    .cons (.label (by decide +kernel : Address.ofLabel "D1" = .ok ⟨0, 3⟩) (by decide +kernel)) .nil
  have sum : List.Forall₂ Token.Respells ["C1", "+", "A1"] ["c1", "+", "a01"] :=
    .cons (.label (by decide +kernel : Address.ofLabel "C1" = .ok ⟨0, 2⟩) (by decide +kernel))
      (.cons (.same "+")
        (.cons (.label (by decide +kernel : Address.ofLabel "A1" = .ok ⟨0, 0⟩) (by decide +kernel))
          .nil))
  have productCell : Cell.Respells ⟨["B1", "*", "B1"], stale⟩ ⟨["b1", "*", "B01"], stale⟩ :=
    ⟨product, rfl⟩
  have referenceCell : Cell.Respells ⟨["D1"], stale⟩ ⟨["d001"], stale⟩ := ⟨reference, rfl⟩
  have sumCell : Cell.Respells ⟨["C1", "+", "A1"], stale⟩ ⟨["c1", "+", "a01"], stale⟩ := ⟨sum, rfl⟩
  have numberCell : Cell.Respells ⟨["3"], stale⟩ ⟨["3"], stale⟩ := ⟨.cons (.same "3") .nil, rfl⟩
  have respells : left.Respells right :=
    (((respells_empty.put productCell ⟨0, 0⟩).put referenceCell ⟨0, 2⟩).put sumCell
      ⟨0, 3⟩).clearDirty.put numberCell ⟨0, 1⟩
  have leftEnumerates := left.enumerates_dependentsOf
  have rightEnumerates : right.graph.Enumerates rightDependents := fun _ _ => List.mem_reverse
  have outcomes : leftResult.1.entries.map (fun entry => entry.2.outcome) =
      [⟨9.0, none⟩, ⟨3.0, none⟩, ⟨0.0, some .circularReference⟩,
        ⟨0.0, some .circularReference⟩] := by
    decide +kernel
  exact ⟨respells, leftEnumerates, rightEnumerates, rfl, outcomes,
    calculate_respelled respells leftEnumerates rightEnumerates rfl⟩

end Sheet

end Spreadsheet
