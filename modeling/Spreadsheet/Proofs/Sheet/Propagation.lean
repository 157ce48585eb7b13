import Spreadsheet.Proofs.Formula.Errors
import Spreadsheet.Proofs.Sheet.Calculation

/-!
# Errors reach every reader

On a settled sheet a cell without an error has resolved every reference of its formula, so
each cell that it reads is without an error as well. By induction along the references
no clean cell depends on a cell with an error, on an empty or missing one, or on a cycle.
-/

namespace Spreadsheet

/-- A cell with a formula that came to a number. -/
structure Cell.IsClean (cell : Cell) : Prop where
  filled : cell.formula ≠ []
  noError : cell.outcome.error = none
  isNumber : cell.outcome.value.isNaN = false

namespace Sheet

variable {sheet : Sheet} {address precedent : Address} {cell : Cell}

/-- The address is off every cycle and holds a clean cell. -/
def CleanAt (sheet : Sheet) (address : Address) : Prop :=
  ¬ sheet.OnCycle address ∧ ∃ cell, sheet.cell? address = some cell ∧ cell.IsClean

/-- A settled cell that a reference can be resolved to is on no cycle. -/
theorem SettledAt.offCycle (settled : sheet.SettledAt address)
    (held : sheet.cell? address = some cell)
    (usable : cell.outcome.error = none ∨ cell.outcome.error = some .emptyFormula) :
    ¬ sheet.OnCycle address := by
  intro onCycle
  have circular := (settled cell held).1 onCycle
  rw [circular] at usable
  rcases usable with clean | blank
  · cases clean
  · cases blank

/-- A formula with tokens is classified into tokens. -/
theorem classify_ne_nil {formula : List String} (filled : formula ≠ []) :
    Formula.classify formula ≠ [] :=
  fun empty => filled (List.map_eq_nil_iff.mp empty)

/-- A settled cell that a reference can be resolved to is clean. -/
theorem SettledAt.cleanAt (settled : sheet.SettledAt address)
    (held : sheet.cell? address = some cell) (filled : cell.formula ≠ [])
    (usable : cell.outcome.error = none ∨ cell.outcome.error = some .emptyFormula) :
    sheet.CleanAt address := by
  have offCycle := settled.offCycle held usable
  have evaluated := (settled cell held).2 offCycle
  have noError : cell.outcome.error = none := by
    refine usable.resolve_right fun blank => ?_
    rw [evaluated] at blank
    exact classify_ne_nil filled (Formula.eq_nil_of_error_emptyFormula blank)
  have isNumber : cell.outcome.value.isNaN = false := by
    rw [evaluated] at noError ⊢
    exact (Formula.evaluate_clean noError).2.2
  exact ⟨offCycle, cell, held, ⟨filled, noError, isNumber⟩⟩

/-- A settled cell without an error is clean: its formula cannot be empty. -/
theorem SettledAt.cleanAt_of_noError (settled : sheet.SettledAt address)
    (held : sheet.cell? address = some cell) (noError : cell.outcome.error = none) :
    sheet.CleanAt address := by
  have evaluated := (settled cell held).2 (settled.offCycle held (.inl noError))
  have filled : cell.formula ≠ [] := by
    intro empty
    rw [evaluated, empty] at noError
    exact (Formula.evaluate_clean noError).1 rfl
  exact settled.cleanAt held filled (.inl noError)

/-- What a clean cell reads is clean. -/
theorem CleanAt.of_reads (clean : sheet.CleanAt address) (settled : sheet.SettledAt address)
    (precedentSettled : sheet.SettledAt precedent) (reads : sheet.Reads address precedent) :
    sheet.CleanAt precedent := by
  obtain ⟨offCycle, cell, held, isClean⟩ := clean
  obtain ⟨reader, readerHeld, refers⟩ := reads
  cases held.symm.trans readerHeld
  have noError := isClean.noError
  rw [(settled cell held).2 offCycle] at noError
  obtain ⟨label, refersTo, named⟩ := List.mem_filterMap.mp refers
  obtain ⟨value, resolved⟩ := (Formula.evaluate_clean noError).2.1 label refersTo
  obtain ⟨read, readHeld, filled, -, usable⟩ := Store.resolve_eq_ok resolved
  rw [store, named] at readHeld
  exact precedentSettled.cleanAt readHeld filled usable

/-- What a clean cell depends on is clean. -/
theorem CleanAt.of_dependsOn (clean : sheet.CleanAt address)
    (settled : ∀ other, sheet.SettledAt other) (depends : sheet.DependsOn address precedent) :
    sheet.CleanAt precedent := by
  induction depends with
  | refl => exact clean
  | tail _ reads cleanBefore => exact cleanBefore.of_reads (settled _) (settled _) reads

/-- After a full calculation with cycle detection, in whatever order dependents are looked at,
a cell without an error is on no cycle, and neither is any address that its references
lead to in one or more steps. Each of those holds a cell with a formula that came to a number
without an error. -/
theorem clean_of_noError (sheet : Sheet) (dependentsOf : Address → List Address)
    (enumerates : sheet.graph.Enumerates dependentsOf) :
    let final := (sheet.calculateBy dependentsOf { full := true, detectCycles := true }).1
    ∀ address cell, final.cell? address = some cell → cell.outcome.error = none →
      ¬ sheet.OnCycle address ∧
      ∀ precedent, Relation.TransGen sheet.Reads address precedent →
        ¬ sheet.OnCycle precedent ∧
        ∃ read, final.cell? precedent = some read ∧ read.formula ≠ [] ∧
          read.outcome.error = none ∧ read.outcome.value.isNaN = false := by
  intro final address cell held noError
  have isOrder := isCalculationOrder_calculationOrder enumerates
    { full := true, detectCycles := true }
  have settled : ∀ other, final.SettledAt other := isOrder.settledAt_of_full rfl rfl
  have sameReads : final.Reads = sheet.Reads := by
    funext reader precedent
    exact propext (reads_calculateInOrder reader precedent)
  have clean := (settled address).cleanAt_of_noError held noError
  refine ⟨mt onCycle_calculateInOrder.mpr clean.1, fun precedent reached => ?_⟩
  have depends : final.DependsOn address precedent := by
    rw [DependsOn, sameReads]
    exact reached.to_reflTransGen
  obtain ⟨offCycle, read, readHeld, isClean⟩ := clean.of_dependsOn settled depends
  exact ⟨mt onCycle_calculateInOrder.mpr offCycle, read, readHeld, isClean.filled,
    isClean.noError, isClean.isNumber⟩

/-- Three cells in a row, the last of them read by a cell that also reads itself, with dependents
looked at from the last to the first. -/
theorem clean_of_noError_three_cells :
    let sheet := (((empty.setFormulaAt ⟨0, 0⟩ ["2"]).setFormulaAt ⟨0, 1⟩
      ["A1", "+", "1"]).setFormulaAt ⟨0, 2⟩ ["b01", "*", "2"]).setFormulaAt ⟨0, 3⟩
      ["C1", "-", "D1"]
    let dependentsOf : Address → List Address := fun address =>
      (sheet.graph.dependentsOf address).reverse
    let final := (sheet.calculateBy dependentsOf { full := true, detectCycles := true }).1
    let product : Cell := { formula := ["b01", "*", "2"], outcome := .ok 6.0 }
    sheet.graph.Enumerates dependentsOf ∧
    final.cell? ⟨0, 2⟩ = some product ∧ product.outcome.error = none ∧
    Relation.TransGen sheet.Reads ⟨0, 2⟩ ⟨0, 0⟩ ∧
    ¬ sheet.OnCycle ⟨0, 2⟩ ∧ ¬ sheet.OnCycle ⟨0, 0⟩ ∧
    ∃ read, final.cell? ⟨0, 0⟩ = some read ∧ read.formula ≠ [] ∧
      read.outcome.error = none ∧ read.outcome.value.isNaN = false := by
  intro sheet dependentsOf final product
  have enumerates : sheet.graph.Enumerates dependentsOf := fun _ _ => List.mem_reverse
  have held : final.cell? ⟨0, 2⟩ = some product := by decide +kernel
  have first : sheet.Reads ⟨0, 2⟩ ⟨0, 1⟩ :=
    ⟨.ofFormula ["b01", "*", "2"], by decide +kernel, by decide +kernel⟩
  have second : sheet.Reads ⟨0, 1⟩ ⟨0, 0⟩ :=
    ⟨.ofFormula ["A1", "+", "1"], by decide +kernel, by decide +kernel⟩
  have reached : Relation.TransGen sheet.Reads ⟨0, 2⟩ ⟨0, 0⟩ := .tail (.single first) second
  obtain ⟨offCycle, readers⟩ := clean_of_noError sheet dependentsOf enumerates _ product held rfl
  obtain ⟨readOffCycle, read⟩ := readers _ reached
  exact ⟨enumerates, held, rfl, reached, offCycle, readOffCycle, read⟩

end Sheet

end Spreadsheet
