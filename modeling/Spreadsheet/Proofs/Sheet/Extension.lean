import Spreadsheet.Proofs.Sheet.Independence

/-!
# Evaluating beside a sheet and evaluating within it

A formula can be evaluated against a calculated sheet, or be stored in a cell of its own
and calculated with the rest. If nothing reads that cell, it is on no cycle and nothing
else depends on it. So the rest of the sheet is calculated as it is without the cell, and
the cell is settled against a sheet that agrees with the calculated one in all that its
formula names.
-/

namespace Spreadsheet.Sheet

variable {sheet : Sheet} {options : CalculationOptions} {address : Address}

/-- A cell that no cell reads, itself included, is on no cycle. -/
theorem not_onCycle_put {cell : Cell} (unread : ∀ reader, ¬ sheet.Reads reader address)
    (foreign : address ∉ cell.precedents) : ¬ (sheet.put address cell).OnCycle address := by
  intro onCycle
  obtain ⟨reader, -, reads⟩ := onCycle_iff.mp onCycle
  rw [reads_put] at reads
  split at reads
  · exact foreign reads
  · exact unread reader reads

section AddedCell

variable {cell : Cell} {order addedOrder : List Address}
  (full : options.full = true) (detecting : options.detectCycles = true)
  (isOrder : sheet.IsCalculationOrder options order)
  (addedIsOrder : (sheet.put address cell).IsCalculationOrder options addedOrder)
  (unread : ∀ reader, ¬ sheet.Reads reader address)

include full detecting isOrder addedIsOrder unread

/-- A cell that no other reads has no part in how the others come out. -/
theorem cell?_full_put_of_ne {other : Address} (different : other ≠ address) :
    ((sheet.put address cell).calculateInOrder addedOrder options).1.cell? other =
      (sheet.calculateInOrder order options).1.cell? other := by
  refine (cell?_full_eq full isOrder addedIsOrder detecting fun precedent depends => ?_).symm
  have elsewhere : precedent ≠ address := depends.ne_of_unread unread different
  rw [formula?_put, if_neg (Ne.symm elsewhere)]

/-- A cell that no cell reads comes out as its formula does on the sheet without it. -/
theorem cell?_full_put_self (foreign : address ∉ cell.precedents) :
    ((sheet.put address cell).calculateInOrder addedOrder options).1.cell? address =
      some (cell.withOutcome (Formula.evaluate (sheet.calculateInOrder order options).1.store
        (Formula.classify cell.formula))) := by
  let added := ((sheet.put address cell).calculateInOrder addedOrder options).1
  have formula : added.formula? address = some cell.formula := by
    rw [formula?_calculateInOrder, formula?_put, if_pos rfl]
  obtain ⟨final, held, same⟩ := Option.map_eq_some_iff.mp formula
  have offCycle : ¬ added.OnCycle address := fun onCycle =>
    not_onCycle_put unread foreign (onCycle_calculateInOrder.mp onCycle)
  have evaluated := (addedIsOrder.settledAt_of_full full detecting address final held).2 offCycle
  -- What the formula names is found alike on both sheets, for it is not the added cell.
  have alike : Formula.evaluate added.store (Formula.classify cell.formula) =
      Formula.evaluate (sheet.calculateInOrder order options).1.store
        (Formula.classify cell.formula) := by
    refine evaluate_store_congr fun precedent refers => ?_
    have elsewhere : precedent ≠ address := fun itself => foreign (itself ▸ refers)
    exact cell?_full_put_of_ne full detecting isOrder addedIsOrder unread elsewhere
  rw [same, alike] at evaluated
  rw [held, ← evaluated, Cell.withOutcome, ← same]

end AddedCell

/-- Setting a formula where no cell reads and calculating everything stores the outcome that
the formula has when it is evaluated against the calculated sheet without it, provided that it
does not name its own address; all other cells come out as they do without it. Both calculations
may look at dependents in orders of their own. -/
theorem calculate_setFormulaAt (sheet : Sheet) (address : Address) (formula : List String)
    {dependentsOf addedDependents : Address → List Address}
    (enumerates : sheet.graph.Enumerates dependentsOf)
    (addedEnumerates : (sheet.setFormulaAt address formula).graph.Enumerates addedDependents)
    (unread : ∀ reader, ¬ sheet.Reads reader address)
    (foreign : address ∉ (Cell.ofFormula formula).precedents) :
    let options : CalculationOptions := { full := true, detectCycles := true }
    let calculated := (sheet.calculateBy dependentsOf options).1
    let added := ((sheet.setFormulaAt address formula).calculateBy addedDependents options).1
    added.cell? address =
      some { formula, outcome := Formula.evaluate calculated.store (Formula.classify formula) } ∧
    ∀ other, other ≠ address → added.cell? other = calculated.cell? other := by
  intro options calculated added
  have isOrder := isCalculationOrder_calculationOrder enumerates options
  have addedIsOrder := isCalculationOrder_calculationOrder addedEnumerates options
  constructor
  · exact cell?_full_put_self rfl rfl isOrder addedIsOrder unread foreign
  · exact fun other different =>
      cell?_full_put_of_ne rfl rfl isOrder addedIsOrder unread different

/-- A difference of two cells, one of which reads the other, is added to a sheet that also holds
a cycle. -/
theorem calculate_setFormulaAt_difference :
    let sheet := (((empty.setFormulaAt ⟨0, 0⟩ ["2"]).setFormulaAt ⟨0, 1⟩
      ["A1", "*", "3"]).setFormulaAt ⟨0, 2⟩ ["D1"]).setFormulaAt ⟨0, 3⟩ ["C1", "+", "A1"]
    let formula := ["B1", "-", "a01"]
    let addedSheet := sheet.setFormulaAt ⟨0, 4⟩ formula
    let addedDependents : Address → List Address := fun address =>
      (addedSheet.graph.dependentsOf address).reverse
    let options : CalculationOptions := { full := true, detectCycles := true }
    let calculated := (sheet.calculateBy sheet.graph.dependentsOf options).1
    let added := (addedSheet.calculateBy addedDependents options).1
    sheet.graph.Enumerates sheet.graph.dependentsOf ∧
    addedSheet.graph.Enumerates addedDependents ∧ sheet.cell? ⟨0, 4⟩ = none ∧
    (∀ reader, ¬ sheet.Reads reader ⟨0, 4⟩) ∧ ⟨0, 4⟩ ∉ (Cell.ofFormula formula).precedents ∧
    Formula.evaluate calculated.store (Formula.classify formula) = .ok 4.0 ∧
    added.cell? ⟨0, 4⟩ = some { formula, outcome := .ok 4.0 } ∧
    calculated.cell? ⟨0, 2⟩ =
      some { formula := ["D1"], outcome := ⟨0.0, some .circularReference⟩ } ∧
    added.cell? ⟨0, 2⟩ = calculated.cell? ⟨0, 2⟩ := by
  intro sheet formula addedSheet addedDependents options calculated added
  have enumerates := sheet.enumerates_dependentsOf
  have addedEnumerates : addedSheet.graph.Enumerates addedDependents := fun _ _ => List.mem_reverse
  have vacant : sheet.cell? ⟨0, 4⟩ = none := by decide +kernel
  have edges : ∀ edge ∈ sheet.references, edge.1 ≠ ⟨0, 4⟩ := by decide +kernel
  have unread : ∀ reader, ¬ sheet.Reads reader ⟨0, 4⟩ := fun reader reads =>
    edges _ (mem_references.mpr reads) rfl
  have foreign : ⟨0, 4⟩ ∉ (Cell.ofFormula formula).precedents := by decide +kernel
  have beside : Formula.evaluate calculated.store (Formula.classify formula) = .ok 4.0 := by
    decide +kernel
  have circular : calculated.cell? ⟨0, 2⟩ =
      some { formula := ["D1"], outcome := ⟨0.0, some .circularReference⟩ } := by decide +kernel
  obtain ⟨within, others⟩ :=
    calculate_setFormulaAt sheet ⟨0, 4⟩ formula enumerates addedEnumerates unread foreign
  rw [beside] at within
  exact ⟨enumerates, addedEnumerates, vacant, unread, foreign, beside, within, circular,
    others _ (by decide)⟩

end Spreadsheet.Sheet
