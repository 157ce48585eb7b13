import Spreadsheet.Proofs.Sheet.Calculation
import Spreadsheet.Sheet.History

/-!
# Histories with calculations in any order

`Steps` is the relation of a sheet to those that a list of operations may lead to: each
calculation is free to look at dependents in an order of its own. `Sheet.run` is one way
to take the steps. On every way the formulas come out as the edits alone leave them.
-/

namespace Spreadsheet

namespace SheetOperation

/-- Whether an operation is a calculation. -/
def isCalculation : SheetOperation → Bool
  | .calculate _ => true
  | _ => false

/-- What an operation comes down to, on any sheet: a refused edit changes nothing, and
the others put a cell or remove one. -/
theorem apply_cases (operation : SheetOperation) :
    (∀ sheet, operation.apply sheet = sheet) ∨
    (∃ address cell, ∀ sheet, operation.apply sheet = sheet.put address cell) ∨
    (∃ address, ∀ sheet, operation.apply sheet = sheet.removeAt address) ∨
    (∃ address outcome, operation = .setOutcome address outcome) ∨
    operation = .clearDirty ∨
    ∃ options, operation = .calculate options := by
  cases operation with
  | setFormula label formula =>
    simp only [apply, attempt, Sheet.setFormula]
    cases Address.ofLabel label with
    | error problem => exact .inl fun _ => rfl
    | ok address => exact .inr (.inl ⟨address, .ofFormula formula, fun _ => rfl⟩)
  | setFormulaAt address formula =>
    exact .inr (.inl ⟨address, .ofFormula formula, fun _ => rfl⟩)
  | insert label cell =>
    simp only [apply, attempt, Sheet.insert]
    cases Address.ofLabel label with
    | error problem => exact .inl fun _ => rfl
    | ok address => exact .inr (.inl ⟨address, cell, fun _ => rfl⟩)
  | clear label =>
    simp only [apply, attempt, Sheet.clear]
    cases Address.ofLabel label with
    | error problem => exact .inl fun _ => rfl
    | ok address => exact .inr (.inr (.inl ⟨address, fun _ => rfl⟩))
  | setOutcome address outcome => simp
  | clearDirty => simp
  | calculate options => simp

/-- What an operation makes of the formulas depends on the formulas alone. -/
theorem formula?_apply_congr {left right : Sheet}
    (same : ∀ address, left.formula? address = right.formula? address)
    (operation : SheetOperation) (address : Address) :
    (operation.apply left).formula? address = (operation.apply right).formula? address := by
  rcases operation.apply_cases with unchanged | ⟨named, cell, puts⟩ | ⟨named, removes⟩ |
    ⟨named, outcome, rfl⟩ | rfl | ⟨options, rfl⟩
  · rw [unchanged, unchanged, same]
  · rw [puts, puts, Sheet.formula?_put, Sheet.formula?_put, same]
  · rw [removes, removes, Sheet.formula?_removeAt, Sheet.formula?_removeAt, same]
  · exact (left.formula?_setOutcome named address outcome).trans
      ((same address).trans (right.formula?_setOutcome named address outcome).symm)
  · exact same address
  · exact (Sheet.formula?_calculateInOrder address).trans
      ((same address).trans (Sheet.formula?_calculateInOrder address).symm)

end SheetOperation

namespace Sheet

/-- One operation on a sheet, where a calculation looks at dependents in any order. -/
inductive Step (sheet : Sheet) : SheetOperation → Sheet → Prop where
  | edit {operation : SheetOperation} (edits : operation.isCalculation = false) :
      Step sheet operation (operation.apply sheet)
  | calculate {dependentsOf : Address → List Address}
      (enumerates : sheet.graph.Enumerates dependentsOf) (options : CalculationOptions) :
      Step sheet (.calculate options) (sheet.calculateBy dependentsOf options).1

/-- The operations of a list, one after the other. -/
inductive Steps : Sheet → List SheetOperation → Sheet → Prop where
  | refl (sheet : Sheet) : Steps sheet [] sheet
  | head {before middle after : Sheet} {operation : SheetOperation}
      {operations : List SheetOperation} (first : Step before operation middle)
      (rest : Steps middle operations after) : Steps before (operation :: operations) after

/-- Applying an operation is a step. -/
theorem step_apply (sheet : Sheet) (operation : SheetOperation) :
    sheet.Step operation (operation.apply sheet) := by
  cases operation with
  | calculate options => exact .calculate sheet.enumerates_dependentsOf options
  | _ => exact .edit rfl

/-- Running a list of operations is a way to take them in steps. -/
theorem steps_run (sheet : Sheet) (operations : List SheetOperation) :
    sheet.Steps operations (sheet.run operations) := by
  induction operations generalizing sheet with
  | nil => exact .refl sheet
  | cons operation operations inductionHypothesis =>
    exact .head (sheet.step_apply operation) (inductionHypothesis _)

/-! ## Formulas after a history -/

/-- A calculation leaves the formulas as they are. -/
theorem Step.formula?_of_isCalculation {sheet after : Sheet} {operation : SheetOperation}
    (step : sheet.Step operation after) (calculation : operation.isCalculation = true)
    (address : Address) : after.formula? address = sheet.formula? address := by
  cases step with
  | edit edits =>
    rw [edits] at calculation
    cases calculation
  | calculate enumerates options => exact formula?_calculateInOrder address

/-- The formulas after a history are those after its edits alone. -/
theorem Steps.formula?_eq_edits {left after : Sheet} {operations : List SheetOperation}
    (steps : left.Steps operations after) {right : Sheet}
    (same : ∀ address, left.formula? address = right.formula? address) (address : Address) :
    after.formula? address =
      (right.run (operations.filter fun operation => !operation.isCalculation)).formula?
        address := by
  induction steps generalizing right with
  | refl sheet => exact same address
  | @head before middle after operation operations first rest inductionHypothesis =>
    cases calculation : operation.isCalculation with
    | true =>
      rw [List.filter_cons_of_neg (by simp [calculation])]
      exact inductionHypothesis fun other =>
        (first.formula?_of_isCalculation calculation other).trans (same other)
    | false =>
      rw [List.filter_cons_of_pos (by simp [calculation])]
      cases first with
      | edit edits =>
        exact inductionHypothesis (SheetOperation.formula?_apply_congr same operation)
      | calculate enumerates options => cases calculation

end Sheet

end Spreadsheet
