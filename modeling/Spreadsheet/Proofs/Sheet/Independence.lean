import Spreadsheet.Proofs.Sheet.Determinacy
import Spreadsheet.Proofs.Sheet.Statistics

/-!
# A full calculation depends on the formulas alone

What a full calculation leaves at an address is decided by the formulas that the address
depends on. Other cells, outcomes and errors stored before, dirty marks and the order in
which dependents are looked at have no part in it. Two sheets with the same formulas
throughout come out with the same cells and the same statistics; one that has just been
calculated is such a sheet for its next calculation.
-/

namespace Spreadsheet.Sheet

variable {left right : Sheet} {options : CalculationOptions} {leftOrder rightOrder : List Address}
  {address : Address}

/-! ## Cells on a cycle -/

/-- Sheets with the same formulas have the same cells on cycles. -/
theorem mem_circularWith_congr
    (same : ∀ other, left.formula? other = right.formula? other) (address : Address) :
    address ∈ left.circularWith options ↔ address ∈ right.circularWith options := by
  unfold circularWith
  split
  · rw [mem_circularAddresses, mem_circularAddresses]
    exact onCycle_congr fun other _ => same other
  · rfl

/-! ## Two full calculations -/

/-- A full calculation orders all the cells of the sheet. -/
theorem IsCalculationOrder.mem_iff_of_full (isOrder : left.IsCalculationOrder options leftOrder)
    (full : options.full = true) : address ∈ leftOrder ↔ left.holds address = true :=
  (isOrder.mem_iff address).trans (and_iff_left_of_imp (affected_of_full full))

section TwoCalculations

variable (full : options.full = true) (leftIsOrder : left.IsCalculationOrder options leftOrder)
  (rightIsOrder : right.IsCalculationOrder options rightOrder)

include full leftIsOrder rightIsOrder

/-- A full calculation leaves at an address what the formulas call for that it depends on. -/
theorem cell?_full_eq (detecting : options.detectCycles = true)
    (same : ∀ other, left.DependsOn address other → left.formula? other = right.formula? other) :
    (left.calculateInOrder leftOrder options).1.cell? address =
      (right.calculateInOrder rightOrder options).1.cell? address := by
  refine cell?_eq_of_settled (fun other depends => ?_)
    (fun other _ => leftIsOrder.settledAt_of_full full detecting other)
    (fun other _ => rightIsOrder.settledAt_of_full full detecting other)
  have dependsBefore : left.DependsOn address other :=
    (dependsOn_congr (fun third _ => formula?_calculateInOrder third) other).mp depends
  rw [formula?_calculateInOrder, formula?_calculateInOrder, same other dependsBefore]

/-- Full calculations of sheets with the same formulas go through the same cells. -/
theorem perm_of_full (same : ∀ other, left.formula? other = right.formula? other) :
    leftOrder.Perm rightOrder := by
  rw [List.perm_ext_iff_of_nodup leftIsOrder.nodup rightIsOrder.nodup]
  intro address
  rw [leftIsOrder.mem_iff_of_full full, rightIsOrder.mem_iff_of_full full,
    holds_congr (same address)]

/-- Full calculations of sheets with the same formulas count alike. -/
theorem statistics_full_eq (detecting : options.detectCycles = true)
    (same : ∀ other, left.formula? other = right.formula? other) :
    (left.calculateInOrder leftOrder options).2 =
      (right.calculateInOrder rightOrder options).2 := by
  have perm := perm_of_full full leftIsOrder rightIsOrder same
  have circular : (left.circularWith options).Perm (right.circularWith options) :=
    (List.perm_ext_iff_of_nodup (left.nodup_circularWith options)
      (right.nodup_circularWith options)).mpr (mem_circularWith_congr same)
  have evaluated : (left.evaluationOrder leftOrder options).Perm
      (right.evaluationOrder rightOrder options) := by
    have samePart : right.evaluationOrder rightOrder options =
        left.evaluationOrder rightOrder options := by
      simp only [evaluationOrder, mem_circularWith_congr same]
    rw [samePart]
    exact perm.filter _
  have errors : (left.calculateInOrder leftOrder options).1.reportsErrorAt =
      (right.calculateInOrder rightOrder options).1.reportsErrorAt := by
    funext address
    rw [reportsErrorAt, reportsErrorAt,
      cell?_full_eq full leftIsOrder rightIsOrder detecting fun other _ => same other]
  rw [leftIsOrder.statistics_eq, rightIsOrder.statistics_eq, size_congr same,
    evaluated.length_eq, circular.length_eq, errors, perm.countP_eq]

end TwoCalculations

/-- After full calculations with cycle detection two sheets hold the same cell at an address,
with the same outcome, as soon as they had the same formulas in all that the address depends
on, whatever else the two held and in whatever orders dependents were looked at. A second
such calculation changes no cell and has the same statistics. -/
theorem calculate_full_determined (left right : Sheet)
    {leftDependents rightDependents : Address → List Address}
    (leftEnumerates : left.graph.Enumerates leftDependents)
    (rightEnumerates : right.graph.Enumerates rightDependents) :
    let options : CalculationOptions := { full := true, detectCycles := true }
    let once := left.calculateBy leftDependents options
    (∀ address,
      (∀ other, left.DependsOn address other → left.formula? other = right.formula? other) →
      once.1.cell? address = (right.calculateBy rightDependents options).1.cell? address) ∧
    ∀ againDependents, once.1.graph.Enumerates againDependents →
      (once.1.calculateBy againDependents options).1.entries = once.1.entries ∧
      (once.1.calculateBy againDependents options).2 = once.2 := by
  intro options once
  have leftIsOrder := isCalculationOrder_calculationOrder leftEnumerates options
  have rightIsOrder := isCalculationOrder_calculationOrder rightEnumerates options
  refine ⟨fun address same => cell?_full_eq rfl leftIsOrder rightIsOrder rfl same, ?_⟩
  intro againDependents againEnumerates
  have againIsOrder := isCalculationOrder_calculationOrder againEnumerates options
  have kept : ∀ other, once.1.formula? other = left.formula? other :=
    fun other => formula?_calculateInOrder other
  constructor
  · exact entries_ext fun address =>
      cell?_full_eq rfl againIsOrder leftIsOrder rfl fun other _ => kept other
  · exact statistics_full_eq rfl againIsOrder leftIsOrder rfl kept

/-- One cell reads another on both sheets. One sheet also holds a cycle; the other was filled the
other way round, with outcomes from elsewhere, and holds a reader of the two. -/
theorem calculate_full_determined_pair :
    let left := ((empty.setFormulaAt ⟨0, 0⟩ ["2"]).setFormulaAt ⟨0, 1⟩
      ["A1", "*", "3"]).setFormulaAt ⟨0, 2⟩ ["B1", "+", "C1"]
    let right := ((empty.setFormulaAt ⟨0, 3⟩ ["A1", "+", "b1"]).put ⟨0, 1⟩
      { formula := ["A1", "*", "3"], outcome := ⟨99.0, some (.other "old")⟩ }).put ⟨0, 0⟩
      { formula := ["2"], outcome := .zero .circularReference }
    let dependentsOf : Address → List Address := fun address =>
      (right.graph.dependentsOf address).reverse
    let options : CalculationOptions := { full := true, detectCycles := true }
    let once := left.calculateBy left.graph.dependentsOf options
    let again := once.1.calculateBy once.1.graph.dependentsOf options
    left.graph.Enumerates left.graph.dependentsOf ∧ right.graph.Enumerates dependentsOf ∧
    (∀ other, left.DependsOn ⟨0, 1⟩ other → left.formula? other = right.formula? other) ∧
    once.1.cell? ⟨0, 1⟩ = some { formula := ["A1", "*", "3"], outcome := .ok 6.0 } ∧
    once.1.cell? ⟨0, 1⟩ = (right.calculateBy dependentsOf options).1.cell? ⟨0, 1⟩ ∧
    once.1.graph.Enumerates once.1.graph.dependentsOf ∧
    again.1.entries = once.1.entries ∧ again.2 = once.2 := by
  intro left right dependentsOf options once again
  have leftEnumerates := left.enumerates_dependentsOf
  have rightEnumerates : right.graph.Enumerates dependentsOf := fun _ _ => List.mem_reverse
  have held : left.cell? ⟨0, 1⟩ = some (.ofFormula ["A1", "*", "3"]) := by decide +kernel
  have readHeld : left.cell? ⟨0, 0⟩ = some (.ofFormula ["2"]) := by decide +kernel
  have cone : ∀ other, left.DependsOn ⟨0, 1⟩ other → other = ⟨0, 1⟩ ∨ other = ⟨0, 0⟩ := by
    intro other depends
    induction depends with
    | refl => exact .inl rfl
    | tail _ reads before =>
      obtain ⟨cell, readerHeld, refers⟩ := reads
      rcases before with rfl | rfl
      · cases held.symm.trans readerHeld
        have precedents : (Cell.ofFormula ["A1", "*", "3"]).precedents = [⟨0, 0⟩] := by
          decide +kernel
        rw [precedents] at refers
        exact .inr (List.mem_singleton.mp refers)
      · cases readHeld.symm.trans readerHeld
        have precedents : (Cell.ofFormula ["2"]).precedents = [] := by decide +kernel
        rw [precedents] at refers
        cases refers
  have same : ∀ other, left.DependsOn ⟨0, 1⟩ other →
      left.formula? other = right.formula? other := by
    intro other depends
    rcases cone other depends with rfl | rfl
    · decide +kernel
    · decide +kernel
  have product : once.1.cell? ⟨0, 1⟩ =
      some { formula := ["A1", "*", "3"], outcome := .ok 6.0 } := by decide +kernel
  have onceEnumerates := once.1.enumerates_dependentsOf
  obtain ⟨alike, repeated⟩ := calculate_full_determined left right leftEnumerates rightEnumerates
  obtain ⟨entries, statistics⟩ := repeated _ onceEnumerates
  exact ⟨leftEnumerates, rightEnumerates, same, product, alike _ same, onceEnumerates, entries,
    statistics⟩

end Spreadsheet.Sheet
