import Spreadsheet.Proofs.Sheet.Independence

/-!
# Calculating without cycle detection

Without cycle detection the cells on cycles are evaluated wherever the order has them. The
cells that depend on no cycle do not notice: the order still has each of them after
everything that it reads, so with detection or without they come out the same. On a sheet
without cycles the two calculations leave the same cells and count alike.
-/

namespace Spreadsheet.Sheet

variable {sheet : Sheet} {leftOptions rightOptions options : CalculationOptions}
  {leftOrder rightOrder : List Address} {address : Address}

/-- What a calculation affects does not depend on whether it detects cycles. -/
theorem affected_congr (scope : leftOptions.full = rightOptions.full) :
    sheet.Affected leftOptions address ↔ sheet.Affected rightOptions address := by
  rw [Affected, Affected, selectedAddresses, selectedAddresses, scope]

/-- Without cycles there is nothing to mark, whether or not they are looked for. -/
theorem circularWith_eq_nil (acyclic : ∀ address, ¬ sheet.OnCycle address) :
    sheet.circularWith options = [] :=
  List.eq_nil_iff_forall_not_mem.mpr fun address circular =>
    acyclic address (onCycle_of_mem_circularWith circular)

section TwoCalculations

variable (leftIsOrder : sheet.IsCalculationOrder leftOptions leftOrder)
  (rightIsOrder : sheet.IsCalculationOrder rightOptions rightOrder)
  (scope : leftOptions.full = rightOptions.full)

include leftIsOrder rightIsOrder scope

/-- Calculations of the same scope go through the same cells. -/
theorem perm_of_scope : leftOrder.Perm rightOrder := by
  rw [List.perm_ext_iff_of_nodup leftIsOrder.nodup rightIsOrder.nodup]
  intro address
  rw [leftIsOrder.mem_iff, rightIsOrder.mem_iff, affected_congr scope]

/-- Calculations of the same scope leave the same cell at an address that depends on no
cycle. -/
theorem cell?_eq_of_offCycle
    (offCycle : ∀ other, sheet.DependsOn address other → ¬ sheet.OnCycle other) :
    (sheet.calculateInOrder leftOrder leftOptions).1.cell? address =
      (sheet.calculateInOrder rightOrder rightOptions).1.cell? address := by
  have sameFormulas (other : Address) :
      (sheet.calculateInOrder leftOrder leftOptions).1.formula? other =
        (sheet.calculateInOrder rightOrder rightOptions).1.formula? other := by
    rw [formula?_calculateInOrder, formula?_calculateInOrder]
  refine cell?_eq_of_same_or_settled (fun other _ => sameFormulas other) fun other depends => ?_
  have dependsBefore : sheet.DependsOn address other :=
    (dependsOn_congr (fun third _ => formula?_calculateInOrder third) other).mp depends
  have sameListed : other ∈ leftOrder ↔ other ∈ rightOrder :=
    (perm_of_scope leftIsOrder rightIsOrder scope).mem_iff
  by_cases listed : other ∈ leftOrder
  · exact .inr ⟨leftIsOrder.settledAt_of_offCycle listed (offCycle other dependsBefore),
      rightIsOrder.settledAt_of_offCycle (sameListed.mp listed) (offCycle other dependsBefore)⟩
  · left
    rw [cell?_calculateInOrder_of_not_mem listed,
      cell?_calculateInOrder_of_not_mem fun member => listed (sameListed.mpr member)]

/-- On a sheet without cycles calculations of the same scope count alike. -/
theorem statistics_eq_of_acyclic (acyclic : ∀ address, ¬ sheet.OnCycle address) :
    (sheet.calculateInOrder leftOrder leftOptions).2 =
      (sheet.calculateInOrder rightOrder rightOptions).2 := by
  have perm := perm_of_scope leftIsOrder rightIsOrder scope
  have errors : (sheet.calculateInOrder leftOrder leftOptions).1.reportsErrorAt =
      (sheet.calculateInOrder rightOrder rightOptions).1.reportsErrorAt := by
    funext address
    rw [reportsErrorAt, reportsErrorAt,
      cell?_eq_of_offCycle leftIsOrder rightIsOrder scope fun other _ => acyclic other]
  have evaluated : (sheet.evaluationOrder leftOrder leftOptions).Perm
      (sheet.evaluationOrder rightOrder rightOptions) := by
    simp only [evaluationOrder, circularWith_eq_nil acyclic]
    exact perm.filter _
  rw [leftIsOrder.statistics_eq, rightIsOrder.statistics_eq, circularWith_eq_nil acyclic,
    circularWith_eq_nil acyclic, evaluated.length_eq, errors, perm.countP_eq]

end TwoCalculations

/-- Cycle detection makes no difference to a cell that depends on no cycle, whatever cycles
the sheet has elsewhere. On a sheet without cycles it makes no difference to any cell nor to
the statistics. All this holds of full and of incremental calculations, in whatever orders
dependents are looked at. -/
theorem calculate_detection_irrelevant (sheet : Sheet)
    {detectingDependents trustingDependents : Address → List Address}
    (detectingEnumerates : sheet.graph.Enumerates detectingDependents)
    (trustingEnumerates : sheet.graph.Enumerates trustingDependents) (full : Bool) :
    let detecting := sheet.calculateBy detectingDependents { full, detectCycles := true }
    let trusting := sheet.calculateBy trustingDependents { full, detectCycles := false }
    (∀ address, (∀ other, sheet.DependsOn address other → ¬ sheet.OnCycle other) →
      detecting.1.cell? address = trusting.1.cell? address) ∧
    ((∀ address, ¬ sheet.OnCycle address) →
      detecting.1.entries = trusting.1.entries ∧ detecting.2 = trusting.2) := by
  intro detecting trusting
  have detectingIsOrder := isCalculationOrder_calculationOrder detectingEnumerates
    { full, detectCycles := true }
  have trustingIsOrder := isCalculationOrder_calculationOrder trustingEnumerates
    { full, detectCycles := false }
  refine ⟨fun address => cell?_eq_of_offCycle detectingIsOrder trustingIsOrder rfl,
    fun acyclic => ⟨?_, ?_⟩⟩
  · exact entries_ext fun address =>
      cell?_eq_of_offCycle detectingIsOrder trustingIsOrder rfl fun other _ => acyclic other
  · exact statistics_eq_of_acyclic detectingIsOrder trustingIsOrder rfl acyclic

/-- One cell reads another beside a cycle that does come out differently without detection.
On a sheet without cycles only the reader of an edited cell is calculated again. -/
theorem calculate_detection_irrelevant_beside_cycle :
    let sheet := ((((empty.setFormulaAt ⟨0, 0⟩ ["B1", "+", "1"]).setFormulaAt ⟨0, 1⟩
      ["A1"]).setFormulaAt ⟨0, 2⟩ ["2"]).setFormulaAt ⟨0, 3⟩ ["C1", "*", "3"]).setFormulaAt ⟨0, 4⟩
      ["A1", "+", "D1"]
    let dependentsOf : Address → List Address := fun address =>
      (sheet.graph.dependentsOf address).reverse
    let detecting :=
      sheet.calculateBy sheet.graph.dependentsOf { full := true, detectCycles := true }
    let trusting := sheet.calculateBy dependentsOf { full := true, detectCycles := false }
    let unedited := ((empty.setFormulaAt ⟨0, 0⟩ ["2"]).setFormulaAt ⟨0, 1⟩ ["A1", "/", "0.5"]).put
      ⟨0, 2⟩ { formula := ["7"], outcome := .ok 99.0 }
    let edited := unedited.clearDirty.setFormulaAt ⟨0, 0⟩ ["4"]
    let editedDependents := edited.graph.dependentsOf
    let checked := edited.calculateBy editedDependents { full := false, detectCycles := true }
    let unchecked := edited.calculateBy editedDependents { full := false, detectCycles := false }
    sheet.graph.Enumerates sheet.graph.dependentsOf ∧ sheet.graph.Enumerates dependentsOf ∧
    (∀ other, sheet.DependsOn ⟨0, 3⟩ other → ¬ sheet.OnCycle other) ∧
    detecting.1.cell? ⟨0, 0⟩ ≠ trusting.1.cell? ⟨0, 0⟩ ∧
    detecting.1.cell? ⟨0, 3⟩ = some { formula := ["C1", "*", "3"], outcome := .ok 6.0 } ∧
    detecting.1.cell? ⟨0, 3⟩ = trusting.1.cell? ⟨0, 3⟩ ∧
    edited.graph.Enumerates editedDependents ∧ (∀ address, ¬ edited.OnCycle address) ∧
    checked.1.entries.map (fun entry => entry.2.outcome) = [.ok 4.0, .ok 8.0, .ok 99.0] ∧
    checked.1.entries = unchecked.1.entries ∧ checked.2 = unchecked.2 := by
  intro sheet dependentsOf detecting trusting unedited edited editedDependents checked unchecked
  have enumerates := sheet.enumerates_dependentsOf
  have enumeratesReversed : sheet.graph.Enumerates dependentsOf := fun _ _ => List.mem_reverse
  let cone : List Address := [⟨0, 2⟩, ⟨0, 3⟩]
  have closed : ∀ edge ∈ sheet.references, edge.2 ∈ cone → edge.1 ∈ cone := by decide +kernel
  have circular : sheet.circularAddresses = [⟨0, 0⟩, ⟨0, 1⟩] := by decide +kernel
  have apart : ∀ other ∈ cone, other ∉ [(⟨0, 0⟩ : Address), ⟨0, 1⟩] := by decide
  have offCycle : ∀ other, sheet.DependsOn ⟨0, 3⟩ other → ¬ sheet.OnCycle other := by
    intro other depends onCycle
    have listed := mem_circularAddresses.mpr onCycle
    rw [circular] at listed
    exact apart other (depends.mem_of_closed closed (by decide)) listed
  have different : detecting.1.cell? ⟨0, 0⟩ ≠ trusting.1.cell? ⟨0, 0⟩ := by decide +kernel
  have product : detecting.1.cell? ⟨0, 3⟩ =
      some { formula := ["C1", "*", "3"], outcome := .ok 6.0 } := by decide +kernel
  have editedEnumerates := edited.enumerates_dependentsOf
  have none : edited.circularAddresses = [] := by decide +kernel
  have acyclic : ∀ address, ¬ edited.OnCycle address := by
    intro address onCycle
    have listed := mem_circularAddresses.mpr onCycle
    rw [none] at listed
    cases listed
  have outcomes : checked.1.entries.map (fun entry => entry.2.outcome) =
      [.ok 4.0, .ok 8.0, .ok 99.0] := by decide +kernel
  obtain ⟨alike, -⟩ := calculate_detection_irrelevant sheet enumerates enumeratesReversed true
  obtain ⟨-, same⟩ :=
    calculate_detection_irrelevant edited editedEnumerates editedEnumerates false
  exact ⟨enumerates, enumeratesReversed, offCycle, different, product, alike _ offCycle,
    editedEnumerates, acyclic, outcomes, same acyclic⟩

end Spreadsheet.Sheet
