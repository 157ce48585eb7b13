import Spreadsheet.Proofs.Sheet.Calculation

/-!
# What a calculation leaves alone

Cycles are looked for in the whole sheet, and the addresses of removed cells stay dirty.
Still a calculation writes only to cells in its order, and its order holds only what it
reaches from where it starts. Everything else keeps its outcome, cells on cycles included,
and no calculation adds, removes or rewrites a formula.
-/

namespace Spreadsheet.Sheet

variable {sheet : Sheet} {options : CalculationOptions} {order : List Address} {address : Address}

/-- A calculation neither adds nor removes a cell. -/
theorem addresses_calculateInOrder :
    (sheet.calculateInOrder order options).1.addresses = sheet.addresses :=
  addresses_congr fun _ => formula?_calculateInOrder _

/-- A calculation of what changed starts nowhere if nothing changed. -/
theorem not_affected_of_clean (incremental : options.full = false)
    (clean : sheet.dirtyAddresses = []) : ¬ sheet.Affected options address := by
  rintro ⟨start, selected, -⟩
  rw [selectedAddresses, incremental, if_neg Bool.false_ne_true, clean] at selected
  cases selected

/-- A calculation of what changed changes nothing if nothing changed. -/
theorem IsCalculationOrder.entries_of_clean (isOrder : sheet.IsCalculationOrder options order)
    (incremental : options.full = false) (clean : sheet.dirtyAddresses = []) :
    (sheet.calculateInOrder order options).1.entries = sheet.entries :=
  entries_ext fun _ => isOrder.cell?_of_not_affected (not_affected_of_clean incremental clean)

/-- Whatever the options and in whatever order dependents are looked at, a calculation keeps
the addresses and the formulas, leaves nothing dirty, and keeps the formula, the value and the
error of every cell that it does not reach from the cells where it starts. If it is to
calculate what changed and nothing has, it keeps all cells. -/
theorem calculate_frame (sheet : Sheet) {dependentsOf : Address → List Address}
    (enumerates : sheet.graph.Enumerates dependentsOf) (options : CalculationOptions) :
    let final := (sheet.calculateBy dependentsOf options).1
    final.addresses = sheet.addresses ∧
    (∀ address, final.formula? address = sheet.formula? address) ∧
    final.dirtyAddresses = [] ∧
    (∀ address, ¬ sheet.Affected options address → final.cell? address = sheet.cell? address) ∧
    (options.full = false → sheet.dirtyAddresses = [] → final.entries = sheet.entries) := by
  intro final
  have isOrder := isCalculationOrder_calculationOrder enumerates options
  refine ⟨addresses_calculateInOrder, fun _ => formula?_calculateInOrder _, ?_, ?_, ?_⟩
  · exact dirtyAddresses_clearDirty _
  · exact fun address unaffected => isOrder.cell?_of_not_affected unaffected
  · exact fun incremental clean => isOrder.entries_of_clean incremental clean

/-- A cycle that was never found keeps its outcomes while a new cell, a reader of it and a
reader of a removed cell get theirs; once that is forgotten, nothing changes at all. -/
theorem calculate_frame_unfound_cycle :
    let settled := (((((empty.put ⟨0, 0⟩ { formula := ["B1"], outcome := .ok 5.0 }).put ⟨0, 1⟩
      { formula := ["A1"], outcome := .zero (.other "old") }).setFormulaAt ⟨0, 3⟩
      ["C1", "+", "1"]).setFormulaAt ⟨0, 4⟩ ["2"]).setFormulaAt ⟨0, 5⟩ ["E1"]).clearDirty
    let sheet := (settled.setFormulaAt ⟨0, 2⟩ ["2"]).removeAt ⟨0, 4⟩
    let dependentsOf : Address → List Address := fun address =>
      (sheet.graph.dependentsOf address).reverse
    let options : CalculationOptions := { full := false, detectCycles := true }
    let final := (sheet.calculateBy dependentsOf options).1
    let quiet := sheet.clearDirty
    let again := (quiet.calculateBy quiet.graph.dependentsOf options).1
    sheet.graph.Enumerates dependentsOf ∧ sheet.OnCycle ⟨0, 0⟩ ∧
    ¬ sheet.Affected options ⟨0, 0⟩ ∧
    final.cell? ⟨0, 0⟩ = some { formula := ["B1"], outcome := .ok 5.0 } ∧
    final.cell? ⟨0, 3⟩ = some { formula := ["C1", "+", "1"], outcome := .ok 3.0 } ∧
    final.addresses = sheet.addresses ∧ final.dirtyAddresses = [] ∧
    quiet.graph.Enumerates quiet.graph.dependentsOf ∧ quiet.dirtyAddresses = [] ∧
    quiet.OnCycle ⟨0, 0⟩ ∧ again.entries = quiet.entries := by
  intro settled sheet dependentsOf options final quiet again
  have enumerates : sheet.graph.Enumerates dependentsOf := fun _ _ => List.mem_reverse
  have onCycle : sheet.OnCycle ⟨0, 0⟩ := mem_circularAddresses.mp (by decide +kernel)
  have unaffected : ¬ sheet.Affected options ⟨0, 0⟩ := by
    rintro ⟨start, selected, depends⟩
    have cycle : start ∈ [⟨0, 0⟩, ⟨0, 1⟩] :=
      depends.mem_of_closed (by decide +kernel) List.mem_cons_self
    have apart : ∀ other ∈ sheet.selectedAddresses options, other ∉ [⟨0, 0⟩, ⟨0, 1⟩] := by
      decide +kernel
    exact apart start selected cycle
  have held : sheet.cell? ⟨0, 0⟩ = some { formula := ["B1"], outcome := .ok 5.0 } := by
    decide +kernel
  have reader : final.cell? ⟨0, 3⟩ =
      some { formula := ["C1", "+", "1"], outcome := .ok 3.0 } := by decide +kernel
  have quietOnCycle : quiet.OnCycle ⟨0, 0⟩ := mem_circularAddresses.mp (by decide +kernel)
  have quietEnumerates := quiet.enumerates_dependentsOf
  have clean : quiet.dirtyAddresses = [] := dirtyAddresses_clearDirty _
  obtain ⟨addresses, -, marks, kept, -⟩ := calculate_frame sheet enumerates options
  obtain ⟨-, -, -, -, unchanged⟩ := calculate_frame quiet quietEnumerates options
  exact ⟨enumerates, onCycle, unaffected, (kept _ unaffected).trans held, reader, addresses, marks,
    quietEnumerates, clean, quietOnCycle, unchanged rfl clean⟩

end Spreadsheet.Sheet
