import Spreadsheet.Proofs.Sheet.Determinacy
import Spreadsheet.Proofs.Sheet.History

/-!
# Incremental calculation is as good as starting over

A sheet is up to date if every address is settled that depends on no dirty address.
Edits keep a sheet up to date, because they mark what they touch: a cell that does not
depend on the edited address neither gains nor loses a cycle, nor a precedent, through
the edit. A calculation with cycle detection, full or not, settles an up-to-date sheet
everywhere, and settled sheets with the same formulas are the same.
-/

namespace Spreadsheet

namespace Sheet

/-- Whatever depends on no dirty address is settled. -/
def UpToDate (sheet : Sheet) : Prop :=
  ∀ address, (∀ other, sheet.DependsOn address other → other ∉ sheet.dirty) →
    sheet.SettledAt address

/-- The empty sheet is up to date. -/
theorem upToDate_empty : empty.UpToDate := by
  intro address _ cell held
  rw [cell?_empty] at held
  cases held

/-! ## Edits -/

/-- An edit of one address that marks the address keeps a sheet up to date. -/
theorem UpToDate.edit {before after : Sheet} {edited : Address} (upToDate : before.UpToDate)
    (elsewhere : ∀ other, edited ≠ other → after.cell? other = before.cell? other)
    (marked : ∀ other, other ∈ after.dirty ↔ edited = other ∨ other ∈ before.dirty) :
    after.UpToDate := by
  intro address clean
  -- What the address depends on after the edit does not include the edited address.
  have untouched : ∀ other, after.DependsOn address other →
      after.cell? other = before.cell? other := by
    intro other depends
    refine elsewhere other fun same => ?_
    exact clean other depends ((marked other).mpr (.inl same))
  have dependence := dependsOn_congr fun other depends =>
    congrArg (Option.map Cell.formula) (untouched other depends)
  have settled := upToDate address fun other depends dirty =>
    clean other ((dependence other).mpr depends) ((marked other).mpr (.inr dirty))
  exact settled.congr fun other depends => (untouched other ((dependence other).mpr depends)).symm

/-- A sheet that is up to date stays so when a cell is stored, since its address becomes dirty. -/
theorem UpToDate.put {sheet : Sheet} (upToDate : sheet.UpToDate) (address : Address)
    (cell : Cell) : (sheet.put address cell).UpToDate :=
  upToDate.edit (fun other different => by rw [cell?_put, if_neg different])
    fun _ => mem_dirty_put

/-- A sheet that is up to date stays so when a cell is removed, since its address becomes dirty. -/
theorem UpToDate.removeAt {sheet : Sheet} (upToDate : sheet.UpToDate) (address : Address) :
    (sheet.removeAt address).UpToDate := by
  cases holds : sheet.holds address with
  | false => rwa [removeAt_of_not_holds holds]
  | true =>
    exact upToDate.edit (fun other different => by rw [cell?_removeAt, if_neg different])
      fun _ => mem_dirty_removeAt holds

/-! ## Calculations -/

/-- A calculation with cycle detection settles an up-to-date sheet everywhere. -/
theorem UpToDate.settledAt_calculateInOrder {sheet : Sheet} (upToDate : sheet.UpToDate)
    {options : CalculationOptions} {order : List Address}
    (isOrder : sheet.IsCalculationOrder options order) (detecting : options.detectCycles = true)
    (address : Address) : (sheet.calculateInOrder order options).1.SettledAt address := by
  cases full : options.full with
  | true => exact isOrder.settledAt_of_full full detecting address
  | false =>
    by_cases affected : sheet.Affected options address
    · exact isOrder.settledAt detecting affected
    · have clean : ∀ other, sheet.DependsOn address other → other ∉ sheet.dirty := by
        intro other depends dirty
        refine affected ⟨other, ?_, depends⟩
        rw [selectedAddresses, full]
        exact mem_dirtyAddresses.mpr dirty
      refine (upToDate address clean).congr fun other depends => ?_
      exact (isOrder.cell?_of_not_affected fun reached =>
        affected (reached.of_dependsOn depends)).symm

end Sheet

/-! ## Histories -/

namespace SheetOperation

/-- Edits, and calculations that detect cycles. Storing outcomes and forgetting what
changed are left to hosts that know what they are doing. -/
def KeepsTrack : SheetOperation → Prop
  | .setOutcome _ _ | .clearDirty => False
  | .calculate options => options.detectCycles = true
  | _ => True

instance : DecidablePred KeepsTrack
  | .setOutcome _ _ | .clearDirty => .isFalse id
  | .calculate options => inferInstanceAs (Decidable (options.detectCycles = true))
  | .setFormula _ _ | .setFormulaAt _ _ | .insert _ _ | .clear _ => .isTrue trivial

/-- Each edit of this kind keeps a sheet up to date, refused ones included. -/
theorem KeepsTrack.upToDate_apply {operation : SheetOperation} (keepsTrack : operation.KeepsTrack)
    (edits : operation.isCalculation = false) {sheet : Sheet} (upToDate : sheet.UpToDate) :
    (operation.apply sheet).UpToDate := by
  rcases operation.apply_cases with unchanged | ⟨address, cell, puts⟩ | ⟨address, removes⟩ |
    ⟨address, outcome, rfl⟩ | rfl | ⟨options, rfl⟩
  · rwa [unchanged]
  · rw [puts]
    exact upToDate.put address cell
  · rw [removes]
    exact upToDate.removeAt address
  · cases keepsTrack
  · cases keepsTrack
  · cases edits

end SheetOperation

namespace Sheet

/-- Each step of this kind keeps a sheet up to date. -/
theorem UpToDate.step {sheet after : Sheet} {operation : SheetOperation}
    (upToDate : sheet.UpToDate) (keepsTrack : operation.KeepsTrack)
    (step : sheet.Step operation after) : after.UpToDate := by
  cases step with
  | edit edits => exact keepsTrack.upToDate_apply edits upToDate
  | calculate enumerates options =>
    have isOrder := isCalculationOrder_calculationOrder enumerates options
    exact fun address _ => upToDate.settledAt_calculateInOrder isOrder keepsTrack address

/-- Every history of such steps leaves an up-to-date sheet. -/
theorem UpToDate.steps {sheet after : Sheet} {operations : List SheetOperation}
    (upToDate : sheet.UpToDate) (keepTrack : ∀ operation ∈ operations, operation.KeepsTrack)
    (steps : sheet.Steps operations after) : after.UpToDate := by
  induction steps with
  | refl sheet => exact upToDate
  | @head before middle after operation operations first rest inductionHypothesis =>
    exact inductionHypothesis (upToDate.step (keepTrack operation List.mem_cons_self) first)
      fun other member => keepTrack other (List.mem_cons_of_mem operation member)

/-- After any history of edits and calculations with cycle detection, one more such
calculation, incremental or full, leaves exactly the cells that a fresh sheet has after
it was given the formulas and calculated in full; the formulas are those that the edits
alone leave. Every calculation may look at dependents in an order of its own. -/
theorem entries_eq_fresh {operations : List SheetOperation} {options : CalculationOptions}
    {before final fresh : Sheet}
    (keepTrack : ∀ operation ∈ operations, operation.KeepsTrack)
    (detecting : options.detectCycles = true)
    (history : empty.Steps operations before) (last : before.Step (.calculate options) final)
    (again : (ofFormulas final.formulas).Step
      (.calculate { full := true, detectCycles := true }) fresh) :
    final.formulas =
      (empty.run (operations.filter fun operation => !operation.isCalculation)).formulas ∧
    final.entries = fresh.entries := by
  have upToDate : before.UpToDate := upToDate_empty.steps keepTrack history
  cases last with
  | edit edits => cases edits
  | calculate enumerates _ =>
    have isOrder := isCalculationOrder_calculationOrder enumerates options
    cases again with
    | edit edits => cases edits
    | calculate freshEnumerates _ =>
      have freshOrder := isCalculationOrder_calculationOrder freshEnumerates
        { full := true, detectCycles := true }
      constructor
      · refine formulas_ext fun address => ?_
        exact (formula?_calculateInOrder address).trans
          (history.formula?_eq_edits (fun _ => rfl) address)
      · refine entries_ext fun address => cell?_eq_of_settled (fun other _ => ?_)
          (fun other _ => upToDate.settledAt_calculateInOrder isOrder detecting other)
          (fun other _ => freshOrder.settledAt_of_full rfl rfl other)
        exact ((formula?_calculateInOrder other).trans (formula?_ofFormulas _ other)).symm

/-- A cycle is made, calculated and broken again, a cell is removed that another one
reads, and edits fail; then only what changed is calculated. -/
theorem entries_eq_fresh_broken_cycle :
    let operations : List SheetOperation :=
      [.setFormula "A1" ["b1", "+", "1"], .setFormula "B1" ["A1"], .setFormula "C1" ["D1"],
        .insert "D1" { formula := ["2"], outcome := .zero (.other "old") },
        .calculate { full := true, detectCycles := true }, .setFormula "b01" ["5"], .clear "D1",
        .clear "D1", .clear "1D", .calculate { full := false, detectCycles := true },
        .insert "D1" { formula := ["A1"] }]
    let options : CalculationOptions := { full := false, detectCycles := true }
    let before := empty.run operations
    let final := (before.calculate options).1
    let edited := empty.run (operations.filter fun operation => !operation.isCalculation)
    let fresh := ((ofFormulas final.formulas).calculate { full := true, detectCycles := true }).1
    (∀ operation ∈ operations, operation.KeepsTrack) ∧ options.detectCycles = true ∧
      empty.Steps operations before ∧ before.Step (.calculate options) final ∧
      (ofFormulas final.formulas).Step
        (.calculate { full := true, detectCycles := true }) fresh ∧
      final.formulas = edited.formulas ∧ final.entries = fresh.entries := by
  intro operations options before final edited fresh
  have keepTrack : ∀ operation ∈ operations, operation.KeepsTrack := by decide
  have history := empty.steps_run operations
  have last := before.step_apply (.calculate options)
  have again := (ofFormulas final.formulas).step_apply
    (.calculate { full := true, detectCycles := true })
  exact ⟨keepTrack, rfl, history, last, again,
    entries_eq_fresh keepTrack rfl history last again⟩

end Sheet

end Spreadsheet
