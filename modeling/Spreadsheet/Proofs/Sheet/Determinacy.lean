import Spreadsheet.Proofs.Sheet.Calculation

/-!
# Settled outcomes are determined by the formulas

Two sheets with the same formulas, both settled, hold the same cells: away from cycles
every outcome is computed from outcomes of strictly lower rank. The statement is local,
so it suffices that the sheets agree in what one address depends on.
-/

namespace Spreadsheet.Sheet

/-- Cells that are not on a cycle can be ranked above the cells that they read: a full
calculation comes to them later. -/
theorem exists_rank (sheet : Sheet) :
    ∃ rank : Address → Nat, ∀ reader precedent, sheet.Reads reader precedent →
      ¬ sheet.OnCycle reader → sheet.holds precedent = true → rank precedent < rank reader := by
  let options : CalculationOptions := { full := true, detectCycles := true }
  let order := sheet.calculationOrder sheet.graph.dependentsOf options
  have isOrder : sheet.IsCalculationOrder options order :=
    isCalculationOrder_calculationOrder sheet.enumerates_dependentsOf options
  refine ⟨fun address => order.idxOf address, ?_⟩
  intro reader precedent reads offCycle holds
  have listed {address : Address} (holds : sheet.holds address = true) : address ∈ order :=
    (isOrder.mem_iff address).mpr ⟨holds, affected_of_full rfl holds⟩
  have readerBound := List.idxOf_lt_length_of_mem (listed reads.holds)
  have precedentBound := List.idxOf_lt_length_of_mem (listed holds)
  have unequal : order.idxOf reader ≠ order.idxOf precedent := by
    intro equal
    have same : reader = precedent := by
      rw [← List.getElem_idxOf readerBound, ← List.getElem_idxOf precedentBound]
      simp only [equal]
    rw [same] at offCycle reads
    exact offCycle (.single reads)
  refine Nat.lt_of_not_ge fun notLower => ?_
  have before : order.idxOf reader < order.idxOf precedent := Nat.lt_of_le_of_ne notLower unequal
  have ordered := List.pairwise_iff_getElem.mp isOrder.ordered _ _ readerBound
    precedentBound before
  rw [List.getElem_idxOf, List.getElem_idxOf] at ordered
  exact offCycle (ordered reads)

/-- An address has no formula exactly if it has no cell. -/
theorem formula?_eq_none_iff {sheet : Sheet} {address : Address} :
    sheet.formula? address = none ↔ sheet.cell? address = none :=
  Option.map_eq_none_iff

/-- Sheets with the same formulas in what an address depends on hold the same cell at the
address, provided that everywhere there they hold the same cell or are both settled. -/
theorem cell?_eq_of_same_or_settled {left right : Sheet} {address : Address}
    (same : ∀ other, left.DependsOn address other → left.formula? other = right.formula? other)
    (agree : ∀ other, left.DependsOn address other →
      left.cell? other = right.cell? other ∨ (left.SettledAt other ∧ right.SettledAt other)) :
    left.cell? address = right.cell? address := by
  obtain ⟨rank, lower⟩ := left.exists_rank
  induction position : rank address using Nat.strongRecOn generalizing address with
  | ind position inductionHypothesis =>
    rcases agree address .refl with alike | ⟨leftSettled, rightSettled⟩
    · exact alike
    cases held : left.cell? address with
    | none =>
      have missing := formula?_eq_none_iff.mpr held
      rw [same address .refl] at missing
      exact (formula?_eq_none_iff.mp missing).symm
    | some cell =>
      have sameFormula := same address .refl
      rw [formula?, held, Option.map_some] at sameFormula
      obtain ⟨other, otherHeld, formulas⟩ := Option.map_eq_some_iff.mp sameFormula.symm
      obtain ⟨circular, evaluated⟩ := leftSettled cell held
      obtain ⟨otherCircular, otherEvaluated⟩ := rightSettled other otherHeld
      have cycle := onCycle_congr same
      have outcomes : cell.outcome = other.outcome := by
        by_cases onCycle : left.OnCycle address
        · rw [circular onCycle, otherCircular (cycle.mp onCycle)]
        · rw [evaluated onCycle, otherEvaluated fun back => onCycle (cycle.mpr back), formulas]
          refine evaluate_store_congr fun precedent refers => ?_
          have reads : left.Reads address precedent := ⟨cell, held, refers⟩
          by_cases holds : left.holds precedent = true
          · have below := lower address precedent reads onCycle holds
            rw [position] at below
            exact inductionHypothesis _ below
              (fun third depends => same third (.head reads depends))
              (fun third depends => agree third (.head reads depends)) rfl
          · have missing := formula?_eq_none_iff.mpr (cell?_eq_none_of_not_holds holds)
            have alsoMissing := missing
            rw [same precedent (.single reads)] at alsoMissing
            rw [formula?_eq_none_iff.mp missing, formula?_eq_none_iff.mp alsoMissing]
      rw [otherHeld]
      obtain ⟨formula, outcome⟩ := cell
      obtain ⟨otherFormula, otherOutcome⟩ := other
      cases formulas
      cases outcomes
      rfl

/-- Sheets with the same formulas in what an address depends on, and settled there, hold
the same cell at the address. -/
theorem cell?_eq_of_settled {left right : Sheet} {address : Address}
    (same : ∀ other, left.DependsOn address other → left.formula? other = right.formula? other)
    (leftSettled : ∀ other, left.DependsOn address other → left.SettledAt other)
    (rightSettled : ∀ other, left.DependsOn address other → right.SettledAt other) :
    left.cell? address = right.cell? address :=
  cell?_eq_of_same_or_settled same fun other depends =>
    .inr ⟨leftSettled other depends, rightSettled other depends⟩

end Spreadsheet.Sheet
