import Spreadsheet.Proofs.Formula.Dependence
import Spreadsheet.Proofs.Sheet.Formulas
import Spreadsheet.Proofs.Sheet.References

/-!
# What a calculation leaves behind

A cell is settled if its outcome is the one that its formula calls for on the sheet
as it stands, or the circular reference error if it is on a cycle. Each cell is
evaluated only once, on a sheet that is still changing; the order of the evaluations
makes up for it, since no cell that is read changes later. A calculation with cycle
detection therefore settles every cell that it affects, and it leaves all others and
all formulas alone.
-/

namespace Spreadsheet

namespace Sheet

/-- The outcome at an address is the right one, seen from the sheet as it stands. -/
def SettledAt (sheet : Sheet) (address : Address) : Prop :=
  ∀ cell, sheet.cell? address = some cell →
    (sheet.OnCycle address → cell.outcome = .zero .circularReference) ∧
    (¬ sheet.OnCycle address →
      cell.outcome = Formula.evaluate sheet.store (Formula.classify cell.formula))

/-- Sheets that hold the same cells in the precedents of a cell evaluate it alike. -/
theorem evaluate_store_congr {left right : Sheet} {cell : Cell}
    (alike : ∀ precedent ∈ cell.precedents, left.cell? precedent = right.cell? precedent) :
    Formula.evaluate left.store (Formula.classify cell.formula) =
      Formula.evaluate right.store (Formula.classify cell.formula) := by
  refine Formula.evaluate_congr_of_resolve fun label refers => ?_
  have found : left.store label = right.store label := by
    unfold store
    cases named : Address.ofLabel? label with
    | none => rfl
    | some precedent => exact alike precedent (List.mem_filterMap.mpr ⟨label, refers, named⟩)
  rw [Store.resolve, Store.resolve, found]

/-- A cell is settled on one sheet if it is on another that holds the same cells in all
that the cell depends on. -/
theorem SettledAt.congr {left right : Sheet} {address : Address} (settled : left.SettledAt address)
    (same : ∀ other, left.DependsOn address other → left.cell? other = right.cell? other) :
    right.SettledAt address := by
  intro cell held
  have heldLeft : left.cell? address = some cell := (same address .refl).trans held
  obtain ⟨circular, evaluated⟩ := settled cell heldLeft
  have cycle : left.OnCycle address ↔ right.OnCycle address :=
    onCycle_congr fun other depends => congrArg (Option.map Cell.formula) (same other depends)
  refine ⟨fun onCycle => circular (cycle.mpr onCycle), fun offCycle => ?_⟩
  rw [evaluated fun onCycle => offCycle (cycle.mp onCycle)]
  exact evaluate_store_congr fun precedent refers =>
    same precedent (.single ⟨cell, heldLeft, refers⟩)

end Sheet

/-! ## The steps of a calculation -/

namespace Calculation

/-- The cell at the address gets the circular reference error, and nothing else changes. -/
theorem cell?_markCircular (calculation : Calculation) (address other : Address) :
    (calculation.markCircular address).sheet.cell? other =
      if address = other then
        (calculation.sheet.cell? other).map (·.withOutcome (.zero .circularReference))
      else calculation.sheet.cell? other :=
  calculation.sheet.cell?_setOutcome address other _

/-- The cell at the address gets the outcome of its formula, and nothing else changes. -/
theorem cell?_evaluate (calculation : Calculation) (address other : Address) :
    (calculation.evaluate address).sheet.cell? other =
      if address = other then
        (calculation.sheet.cell? other).map fun cell =>
          cell.withOutcome
            (Formula.evaluate calculation.sheet.store (Formula.classify cell.formula))
      else calculation.sheet.cell? other := by
  unfold evaluate
  split
  · rename_i missing
    split
    · rename_i same
      rw [← same, missing]
      rfl
    · rfl
  · rename_i cell held
    simp only [Sheet.cell?_setOutcome]
    split
    · rename_i same
      rw [← same, held]
      rfl
    · rfl

/-- Marking a cell as circular keeps all formulas. -/
theorem formula?_markCircular (calculation : Calculation) (address other : Address) :
    (calculation.markCircular address).sheet.formula? other =
      calculation.sheet.formula? other :=
  calculation.sheet.formula?_setOutcome address other _

/-- Evaluating a cell keeps all formulas. -/
theorem formula?_evaluate (calculation : Calculation) (address other : Address) :
    (calculation.evaluate address).sheet.formula? other = calculation.sheet.formula? other := by
  unfold evaluate
  split
  · rfl
  · exact calculation.sheet.formula?_setOutcome address other _

/-! ## Runs of steps -/

/-- Steps that change no formula change none however often they are taken. -/
theorem formula?_foldl {step : Calculation → Address → Calculation}
    (keeps : ∀ calculation address other,
      (step calculation address).sheet.formula? other = calculation.sheet.formula? other)
    (order : List Address) (calculation : Calculation) (other : Address) :
    (order.foldl step calculation).sheet.formula? other = calculation.sheet.formula? other := by
  induction order generalizing calculation with
  | nil => rfl
  | cons address order inductionHypothesis =>
    rw [List.foldl_cons, inductionHypothesis, keeps]

/-- Marking the cells of a list gives these the outcome of a cycle and leaves the others alone. -/
theorem cell?_foldl_markCircular (order : List Address) (calculation : Calculation)
    (other : Address) :
    (order.foldl markCircular calculation).sheet.cell? other =
      if other ∈ order then
        (calculation.sheet.cell? other).map (·.withOutcome (.zero .circularReference))
      else calculation.sheet.cell? other := by
  induction order generalizing calculation with
  | nil => rfl
  | cons address order inductionHypothesis =>
    rw [List.foldl_cons, inductionHypothesis, cell?_markCircular]
    by_cases listed : other ∈ order
    · by_cases same : address = other <;>
        simp [listed, same, Function.comp_def]
    · by_cases same : address = other
      · simp [listed, same]
      · simp [listed, same, Ne.symm same]

/-- A cell that is not listed is left alone by evaluating those that are. -/
theorem cell?_foldl_evaluate_of_not_mem {order : List Address} {other : Address}
    (calculation : Calculation) (unlisted : other ∉ order) :
    (order.foldl evaluate calculation).sheet.cell? other = calculation.sheet.cell? other := by
  induction order generalizing calculation with
  | nil => rfl
  | cons address order inductionHypothesis =>
    rw [List.mem_cons, not_or] at unlisted
    obtain ⟨different, later⟩ := unlisted
    rw [List.foldl_cons, inductionHypothesis _ later, cell?_evaluate, if_neg (Ne.symm different)]

/-- A cell that is evaluated once, and after everything that it reads, has the right outcome
for the sheet as it is in the end: nothing that it reads changes after its evaluation. -/
theorem cell?_foldl_evaluate {before after : List Address} {address : Address}
    (calculation : Calculation) (unlistedBefore : address ∉ before)
    (unlistedAfter : address ∉ after)
    (unread : ∀ later ∈ address :: after, ¬ calculation.sheet.Reads address later) :
    let final := (before ++ address :: after).foldl evaluate calculation
    final.sheet.cell? address =
      (calculation.sheet.cell? address).map fun cell =>
        cell.withOutcome (Formula.evaluate final.sheet.store (Formula.classify cell.formula)) := by
  intro final
  let reached := before.foldl evaluate calculation
  have split : final = after.foldl evaluate (reached.evaluate address) :=
    List.foldl_append.trans List.foldl_cons
  have untouched : reached.sheet.cell? address = calculation.sheet.cell? address :=
    cell?_foldl_evaluate_of_not_mem calculation unlistedBefore
  rw [split, cell?_foldl_evaluate_of_not_mem _ unlistedAfter, cell?_evaluate, if_pos rfl, untouched]
  refine Option.map_congr fun cell held => congrArg cell.withOutcome ?_
  refine Sheet.evaluate_store_congr fun precedent refers => ?_
  have unlisted : precedent ∉ address :: after := fun member =>
    unread precedent member ⟨cell, held, refers⟩
  obtain ⟨different, notLater⟩ := not_or.mp fun member => unlisted (List.mem_cons.mpr member)
  rw [cell?_foldl_evaluate_of_not_mem _ notLater, cell?_evaluate, if_neg (Ne.symm different)]

end Calculation

/-! ## The whole calculation -/

namespace Sheet

variable {sheet : Sheet} {options : CalculationOptions} {order : List Address} {address : Address}

/-- The addresses that a calculation marks instead of evaluating them. -/
def circularWith (sheet : Sheet) (options : CalculationOptions) : List Address :=
  if options.detectCycles then sheet.circularAddresses else []

/-- The calculation after the cells on cycles have been marked. -/
def marked (sheet : Sheet) (order : List Address) (options : CalculationOptions) : Calculation :=
  (order.filter (· ∈ sheet.circularWith options)).foldl Calculation.markCircular { sheet }

/-- The cells that are evaluated, in order. -/
def evaluationOrder (sheet : Sheet) (order : List Address) (options : CalculationOptions) :
    List Address :=
  order.filter (· ∉ sheet.circularWith options)

/-- A calculation marks the cells on cycles, evaluates the others in order and forgets what was
dirty. -/
theorem calculateInOrder_eq (sheet : Sheet) (order : List Address) (options : CalculationOptions) :
    (sheet.calculateInOrder order options).1 =
      ((sheet.evaluationOrder order options).foldl Calculation.evaluate
        (sheet.marked order options)).sheet.clearDirty := rfl

/-- Where cycles are looked for, exactly the cells on them are found. -/
theorem mem_circularWith (detecting : options.detectCycles = true) :
    address ∈ sheet.circularWith options ↔ sheet.OnCycle address := by
  rw [circularWith, if_pos detecting, mem_circularAddresses]

/-- Marking keeps all formulas. -/
theorem formula?_marked (address : Address) :
    (sheet.marked order options).sheet.formula? address = sheet.formula? address :=
  Calculation.formula?_foldl Calculation.formula?_markCircular _ _ address

/-- A calculation changes no formula. -/
theorem formula?_calculateInOrder (address : Address) :
    (sheet.calculateInOrder order options).1.formula? address = sheet.formula? address := by
  rw [calculateInOrder_eq]
  exact (Calculation.formula?_foldl Calculation.formula?_evaluate _ _ address).trans
    (formula?_marked address)

/-- A calculation adds no cell. -/
theorem holds_of_cell?_calculateInOrder {cell : Cell}
    (held : (sheet.calculateInOrder order options).1.cell? address = some cell) :
    sheet.holds address = true :=
  (holds_congr (formula?_calculateInOrder address)).symm.trans (holds_iff.mpr ⟨cell, held⟩)

/-- A calculation changes no reference, so it neither closes a cycle nor opens one. -/
theorem reads_calculateInOrder (reader precedent : Address) :
    (sheet.calculateInOrder order options).1.Reads reader precedent ↔
      sheet.Reads reader precedent :=
  reads_congr (formula?_calculateInOrder reader) precedent

/-- A calculation leaves the cycles as they are. -/
theorem onCycle_calculateInOrder :
    (sheet.calculateInOrder order options).1.OnCycle address ↔ sheet.OnCycle address :=
  onCycle_congr fun other _ => formula?_calculateInOrder other

/-- A calculation leaves the cells alone that are not in its order. -/
theorem cell?_calculateInOrder_of_not_mem (unlisted : address ∉ order) :
    (sheet.calculateInOrder order options).1.cell? address = sheet.cell? address := by
  rw [calculateInOrder_eq, cell?_clearDirty, evaluationOrder,
    Calculation.cell?_foldl_evaluate_of_not_mem _ fun listed =>
      unlisted (List.mem_filter.mp listed).1,
    marked, Calculation.cell?_foldl_markCircular,
    if_neg fun listed => unlisted (List.mem_filter.mp listed).1]

/-- What a calculation lists and marks ends with the circular reference error. -/
theorem cell?_of_mem_circularWith (listed : address ∈ order)
    (circular : address ∈ sheet.circularWith options) :
    (sheet.calculateInOrder order options).1.cell? address =
      (sheet.cell? address).map (·.withOutcome (.zero .circularReference)) := by
  have unevaluated : address ∉ sheet.evaluationOrder order options := fun member =>
    of_decide_eq_true (List.mem_filter.mp member).2 circular
  rw [calculateInOrder_eq, cell?_clearDirty,
    Calculation.cell?_foldl_evaluate_of_not_mem _ unevaluated, marked,
    Calculation.cell?_foldl_markCircular,
    if_pos (List.mem_filter.mpr ⟨listed, decide_eq_true circular⟩)]

/-- Only cells on cycles are marked, with cycle detection or without. -/
theorem onCycle_of_mem_circularWith (circular : address ∈ sheet.circularWith options) :
    sheet.OnCycle address := by
  unfold circularWith at circular
  split at circular
  · exact mem_circularAddresses.mp circular
  · cases circular

/-- A cell of the order that is on no cycle is evaluated. -/
theorem mem_evaluationOrder_of_offCycle (listed : address ∈ order)
    (offCycle : ¬ sheet.OnCycle address) : address ∈ sheet.evaluationOrder order options :=
  List.mem_filter.mpr ⟨listed, decide_eq_true fun circular =>
    offCycle (onCycle_of_mem_circularWith circular)⟩

namespace IsCalculationOrder

variable (isOrder : sheet.IsCalculationOrder options order)

include isOrder

/-- What is listed and off every cycle has the outcome that its formula calls for in the
end. With cycle detection or without, none of its precedents is evaluated after it. -/
theorem cell?_of_offCycle (listed : address ∈ order) (offCycle : ¬ sheet.OnCycle address) :
    (sheet.calculateInOrder order options).1.cell? address =
      ((sheet.marked order options).sheet.cell? address).map fun cell =>
        cell.withOutcome (Formula.evaluate (sheet.calculateInOrder order options).1.store
          (Formula.classify cell.formula)) := by
  have evaluated : address ∈ sheet.evaluationOrder order options :=
    mem_evaluationOrder_of_offCycle listed offCycle
  obtain ⟨before, after, split⟩ := List.append_of_mem evaluated
  have nodup : (before ++ address :: after).Nodup := split ▸ isOrder.nodup.filter _
  have ordered : (before ++ address :: after).Pairwise fun earlier later =>
      sheet.Reads earlier later → sheet.OnCycle earlier := split ▸ isOrder.ordered.filter _
  have unread : ∀ later ∈ address :: after, ¬ sheet.Reads address later := by
    intro later member reads
    rcases List.mem_cons.mp member with rfl | member
    · exact offCycle (.single reads)
    · exact offCycle ((List.pairwise_cons.mp (List.pairwise_append.mp ordered).2.1).1 later
        member reads)
  have unlistedBefore : address ∉ before := fun member =>
    (List.nodup_append.mp nodup).2.2 address member address List.mem_cons_self rfl
  have unlistedAfter : address ∉ after := (List.nodup_cons.mp (List.nodup_append.mp nodup).2.1).1
  rw [calculateInOrder_eq, split]
  refine Calculation.cell?_foldl_evaluate _ unlistedBefore unlistedAfter
    fun later member reads => ?_
  exact unread later member ((reads_congr (formula?_marked address) later).mp reads)

/-- Whatever the options, a calculation settles what it lists and is off every cycle. -/
theorem settledAt_of_offCycle (listed : address ∈ order) (offCycle : ¬ sheet.OnCycle address) :
    (sheet.calculateInOrder order options).1.SettledAt address := by
  intro cell held
  refine ⟨fun onCycle => absurd (onCycle_calculateInOrder.mp onCycle) offCycle, fun _ => ?_⟩
  rw [isOrder.cell?_of_offCycle listed offCycle] at held
  obtain ⟨before, -, rfl⟩ := Option.map_eq_some_iff.mp held
  rfl

/-- A calculation with cycle detection settles every cell in its order. -/
theorem settledAt_of_mem (detecting : options.detectCycles = true) (listed : address ∈ order) :
    (sheet.calculateInOrder order options).1.SettledAt address := by
  by_cases onCycle : sheet.OnCycle address
  · intro cell held
    refine ⟨fun _ => ?_, fun offCycle => absurd (onCycle_calculateInOrder.mpr onCycle) offCycle⟩
    rw [cell?_of_mem_circularWith listed ((mem_circularWith detecting).mpr onCycle)] at held
    obtain ⟨before, -, rfl⟩ := Option.map_eq_some_iff.mp held
    rfl
  · exact isOrder.settledAt_of_offCycle listed onCycle

/-- A calculation with cycle detection settles every address that it affects. -/
theorem settledAt (detecting : options.detectCycles = true)
    (affected : sheet.Affected options address) :
    (sheet.calculateInOrder order options).1.SettledAt address := by
  intro cell held
  have listed := (isOrder.mem_iff address).mpr ⟨holds_of_cell?_calculateInOrder held, affected⟩
  exact isOrder.settledAt_of_mem detecting listed cell held

/-- A calculation leaves the cells alone that it does not affect. -/
theorem cell?_of_not_affected (unaffected : ¬ sheet.Affected options address) :
    (sheet.calculateInOrder order options).1.cell? address = sheet.cell? address :=
  cell?_calculateInOrder_of_not_mem fun listed =>
    unaffected ((isOrder.mem_iff address).mp listed).2

end IsCalculationOrder

/-! ## Full calculations -/

/-- A full calculation affects every cell. -/
theorem affected_of_full (full : options.full = true) (holds : sheet.holds address = true) :
    sheet.Affected options address := by
  refine ⟨address, ?_, .refl⟩
  rw [selectedAddresses, if_pos full]
  exact mem_addresses.mpr holds

/-- After a full calculation with cycle detection every address is settled. -/
theorem IsCalculationOrder.settledAt_of_full (isOrder : sheet.IsCalculationOrder options order)
    (full : options.full = true) (detecting : options.detectCycles = true) (address : Address) :
    (sheet.calculateInOrder order options).1.SettledAt address := by
  intro cell held
  have affected := affected_of_full full (holds_of_cell?_calculateInOrder held)
  exact isOrder.settledAt detecting affected cell held

/-- A full calculation leaves a consistent sheet with the formulas of before, in whatever
order dependents are looked at: a cell on a cycle is zero with the circular reference
error, and every other cell has exactly the outcome that evaluating its formula against
the final sheet gives. -/
theorem calculate_full_consistent (sheet : Sheet) (dependentsOf : Address → List Address)
    (enumerates : sheet.graph.Enumerates dependentsOf) :
    let final := (sheet.calculateBy dependentsOf { full := true, detectCycles := true }).1
    (∀ address, final.formula? address = sheet.formula? address) ∧
    ∀ address cell, final.cell? address = some cell →
      (sheet.OnCycle address → cell.outcome = ⟨0.0, some .circularReference⟩) ∧
      (¬ sheet.OnCycle address →
        cell.outcome = Formula.evaluate final.store (Formula.classify cell.formula)) := by
  intro final
  have isOrder := isCalculationOrder_calculationOrder enumerates
    { full := true, detectCycles := true }
  have formulas : ∀ address, final.formula? address = sheet.formula? address :=
    fun address => formula?_calculateInOrder address
  refine ⟨formulas, fun address cell held => ?_⟩
  have cycle : final.OnCycle address ↔ sheet.OnCycle address :=
    onCycle_congr fun other _ => formulas other
  rw [← cycle]
  exact isOrder.settledAt_of_full rfl rfl address cell held

/-- A cycle of two cells, a cell that reads it and a cell apart from it, with dependents
looked at from the last to the first. -/
theorem calculate_full_consistent_two_cells :
    let sheet : Sheet := (((empty.setFormulaAt ⟨0, 0⟩ ["B1", "+", "1"]).setFormulaAt ⟨0, 1⟩
      ["A1"]).setFormulaAt ⟨0, 2⟩ ["A1", "+", "1"]).setFormulaAt ⟨0, 3⟩ ["7"]
    let dependentsOf : Address → List Address := fun address =>
      (sheet.graph.dependentsOf address).reverse
    let final := (sheet.calculateBy dependentsOf { full := true, detectCycles := true }).1
    sheet.graph.Enumerates dependentsOf ∧
    final.entries.map (fun entry => entry.2.outcome) =
      [⟨0.0, some .circularReference⟩, ⟨0.0, some .circularReference⟩,
        ⟨0.0, some .circularReference⟩, ⟨7.0, none⟩] ∧
    (∀ address, final.formula? address = sheet.formula? address) ∧
    ∀ address cell, final.cell? address = some cell →
      (sheet.OnCycle address → cell.outcome = ⟨0.0, some .circularReference⟩) ∧
      (¬ sheet.OnCycle address →
        cell.outcome = Formula.evaluate final.store (Formula.classify cell.formula)) := by
  intro sheet dependentsOf final
  have enumerates : sheet.graph.Enumerates dependentsOf := fun _ _ => List.mem_reverse
  have outcomes : final.entries.map (fun entry => entry.2.outcome) =
      [⟨0.0, some .circularReference⟩, ⟨0.0, some .circularReference⟩,
        ⟨0.0, some .circularReference⟩, ⟨7.0, none⟩] := by
    decide +kernel
  exact ⟨enumerates, outcomes, calculate_full_consistent sheet dependentsOf enumerates⟩

end Sheet

end Spreadsheet
