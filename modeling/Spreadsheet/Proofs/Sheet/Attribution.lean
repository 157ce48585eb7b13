import Spreadsheet.Proofs.Formula.Errors
import Spreadsheet.Proofs.Sheet.Determinacy

/-!
# Every error has a cause on the sheet

`ErrorArises` lists how an error can come up at an address: the address is on a cycle, it
has no formula, its formula is at fault, or its formula reads an address without a formula.
A settled cell with an error is such a place itself, or it has read the error from a
cell that carries it too. Going back from reader to precedent ends, because cells off
the cycles are ranked, so on a settled sheet every error arises at an address that the cell
depends on. Errors stored before the calculation are no cause, and so they are gone.
-/

namespace Spreadsheet.Sheet

variable {sheet : Sheet} {address precedent : Address} {cell : Cell} {error : CellError}

/-- An error comes up at an address, other than by reading it from a cell that has it. -/
inductive ErrorArises (sheet : Sheet) (address : Address) : CellError → Prop where
  | cycle (onCycle : sheet.OnCycle address) : ErrorArises sheet address .circularReference
  | blank (empty : sheet.formula? address = some []) : ErrorArises sheet address .emptyFormula
  /-- The formula is wrong in itself, or its evaluation runs into an error. -/
  | fault {formula : List String} {error : CellError}
      (held : sheet.formula? address = some formula) (filled : formula ≠ [])
      (own : error ∈ Formula.ownErrors) : ErrorArises sheet address error
  /-- The formula reads an address that has none. -/
  | unfilled {precedent : Address} (reads : sheet.Reads address precedent)
      (empty : (sheet.formula? precedent).getD [] = []) :
      ErrorArises sheet address .invalidCell

namespace ErrorArises

/-- Foreign errors arise nowhere. -/
theorem not_other {text : String} : ¬ sheet.ErrorArises address (.other text) := by
  intro arises
  cases arises with
  | fault _ _ own => exact absurd own (by simp [Formula.ownErrors])

/-- A circular reference comes up on cycles only. -/
theorem onCycle (arises : sheet.ErrorArises address .circularReference) :
    sheet.OnCycle address := by
  cases arises with
  | cycle onCycle => exact onCycle
  | fault _ _ own => exact absurd own (by decide)

/-- An empty formula comes up only where the formula is empty. -/
theorem formula?_eq (arises : sheet.ErrorArises address .emptyFormula) :
    sheet.formula? address = some [] := by
  cases arises with
  | blank empty => exact empty
  | fault _ _ own => exact absurd own (by decide)

end ErrorArises

/-- A settled cell has its error from itself, or it is zero and has read the error. -/
theorem SettledAt.errorArises_or_read (settled : sheet.SettledAt address)
    (held : sheet.cell? address = some cell) (failed : cell.outcome.error = some error) :
    sheet.ErrorArises address error ∨
      (¬ sheet.OnCycle address ∧ cell.outcome.value = 0.0 ∧ error ≠ .emptyFormula ∧
        ∃ precedent read, sheet.Reads address precedent ∧
          sheet.cell? precedent = some read ∧ read.outcome.error = some error) := by
  have formulaHeld : sheet.formula? address = some cell.formula := congrArg _ held
  by_cases onCycle : sheet.OnCycle address
  · rw [(settled cell held).1 onCycle] at failed
    cases failed
    exact .inl (.cycle onCycle)
  · have evaluated := (settled cell held).2 onCycle
    rw [evaluated] at failed
    rcases Formula.error_of_evaluate failed with
      ⟨empty, rfl⟩ | ⟨filled, own | ⟨zero, label, refers, unresolved⟩⟩
    · rw [List.map_eq_nil_iff.mp empty] at formulaHeld
      exact .inl (.blank formulaHeld)
    · have notEmpty : cell.formula ≠ [] := fun empty => filled (List.map_eq_nil_iff.mpr empty)
      exact .inl (.fault formulaHeld notEmpty own)
    · obtain ⟨precedent, named, reads⟩ := reads_of_mem_references held refers
      have looked : sheet.store label = sheet.cell? precedent := by
        rw [store, named, Option.bind_some]
      rcases Store.resolve_eq_error unresolved with
        ⟨rfl, blank⟩ | ⟨read, readHeld, carried, notBlank⟩
      · refine .inl (.unfilled reads ?_)
        rw [looked] at blank
        rw [formula?]
        cases readHeld : sheet.cell? precedent with
        | none => rfl
        | some read => exact blank read readHeld
      · rw [looked] at readHeld
        rw [zero] at evaluated
        exact .inr ⟨onCycle, congrArg Outcome.value evaluated, notBlank, precedent, read, reads,
          readHeld, carried⟩

/-- On a settled sheet an error arises at an address that the cell depends on. -/
theorem exists_errorArises (settled : ∀ other, sheet.SettledAt other)
    (held : sheet.cell? address = some cell) (failed : cell.outcome.error = some error) :
    ∃ origin, sheet.DependsOn address origin ∧ sheet.ErrorArises origin error := by
  obtain ⟨rank, lower⟩ := sheet.exists_rank
  induction position : rank address using Nat.strongRecOn generalizing address cell with
  | ind position inductionHypothesis =>
    rcases (settled address).errorArises_or_read held failed with
      arises | ⟨offCycle, -, -, precedent, read, reads, readHeld, carried⟩
    · exact ⟨address, .refl, arises⟩
    · have below := lower address precedent reads offCycle (holds_iff.mpr ⟨read, readHeld⟩)
      rw [position] at below
      obtain ⟨origin, depends, arises⟩ := inductionHypothesis _ below readHeld carried rfl
      exact ⟨origin, .head reads depends, arises⟩

/-- No settled cell has a foreign error. -/
theorem error_ne_other (settled : ∀ other, sheet.SettledAt other)
    (held : sheet.cell? address = some cell) (text : String) :
    cell.outcome.error ≠ some (.other text) := by
  intro failed
  obtain ⟨origin, -, arises⟩ := exists_errorArises settled held failed
  exact arises.not_other

/-- A settled cell reports an empty formula exactly if it has none itself. -/
theorem SettledAt.error_eq_emptyFormula_iff (settled : sheet.SettledAt address)
    (held : sheet.cell? address = some cell) :
    cell.outcome.error = some .emptyFormula ↔ cell.formula = [] := by
  constructor
  · intro failed
    rcases settled.errorArises_or_read held failed with arises | ⟨-, -, notBlank, -⟩
    · have empty := arises.formula?_eq
      rw [formula?, held] at empty
      exact Option.some.inj empty
    · exact absurd rfl notBlank
  · intro empty
    have readsNothing (precedent : Address) : ¬ sheet.Reads address precedent := by
      rintro ⟨reader, readerHeld, refers⟩
      cases held.symm.trans readerHeld
      rw [Cell.precedents, empty] at refers
      cases refers
    have offCycle : ¬ sheet.OnCycle address := by
      intro onCycle
      obtain ⟨precedent, reads, -⟩ := Relation.TransGen.head'_iff.mp onCycle
      exact readsNothing precedent reads
    rw [(settled cell held).2 offCycle, empty]
    rfl

/-- A settled cell with the circular reference error is zero and depends on a cycle. -/
theorem exists_onCycle_of_error (settled : ∀ other, sheet.SettledAt other)
    (held : sheet.cell? address = some cell)
    (failed : cell.outcome.error = some .circularReference) :
    cell.outcome.value = 0.0 ∧
      ∃ origin, sheet.DependsOn address origin ∧ sheet.OnCycle origin := by
  constructor
  · rcases (settled address).errorArises_or_read held failed with arises | ⟨-, zero, -⟩
    · rw [(settled address cell held).1 arises.onCycle]
      rfl
    · exact zero
  · obtain ⟨origin, depends, arises⟩ := exists_errorArises settled held failed
    exact ⟨origin, depends, arises.onCycle⟩

/-- After a full calculation with cycle detection, in whatever order dependents are looked at
and whatever errors were stored before, no cell has a foreign error, the cells that report an
empty formula are those that have none, and a cell with the circular reference error is zero
and is on a cycle or reads one, directly or through others. -/
theorem errors_attributed (sheet : Sheet) (dependentsOf : Address → List Address)
    (enumerates : sheet.graph.Enumerates dependentsOf) :
    let final := (sheet.calculateBy dependentsOf { full := true, detectCycles := true }).1
    ∀ address cell, final.cell? address = some cell →
      (∀ text, cell.outcome.error ≠ some (.other text)) ∧
      (cell.outcome.error = some .emptyFormula ↔ cell.formula = []) ∧
      (cell.outcome.error = some .circularReference →
        cell.outcome.value = 0.0 ∧
          ∃ origin, sheet.DependsOn address origin ∧ sheet.OnCycle origin) := by
  intro final address cell held
  have isOrder := isCalculationOrder_calculationOrder enumerates
    { full := true, detectCycles := true }
  have settled : ∀ other, final.SettledAt other := isOrder.settledAt_of_full rfl rfl
  refine ⟨error_ne_other settled held, (settled address).error_eq_emptyFormula_iff held, ?_⟩
  intro failed
  obtain ⟨zero, origin, depends, onCycle⟩ := exists_onCycle_of_error settled held failed
  have dependsBefore : sheet.DependsOn address origin :=
    (dependsOn_congr (fun other _ => formula?_calculateInOrder other) origin).mp depends
  exact ⟨zero, origin, dependsBefore, onCycle_calculateInOrder.mp onCycle⟩

/-- A cell that reads itself and a reader of it, a blank cell with a foreign error and a reader
of that, all with stored outcomes; dependents are looked at from the last to the first. -/
theorem errors_attributed_four_cells :
    let foreign : Outcome := ⟨3.0, some (.other "#N/A")⟩
    let sheet := (((empty.put ⟨0, 0⟩ ⟨["A1", "+", "1"], foreign⟩).put ⟨0, 1⟩
      ⟨["a01", "*", "2"], .zero .emptyFormula⟩).put ⟨0, 2⟩ ⟨[], foreign⟩).put ⟨0, 3⟩
      ⟨["C1", "-", "1"], .zero .circularReference⟩
    let dependentsOf : Address → List Address := fun address =>
      (sheet.graph.dependentsOf address).reverse
    let final := (sheet.calculateBy dependentsOf { full := true, detectCycles := true }).1
    let reader : Cell := ⟨["a01", "*", "2"], .zero .circularReference⟩
    sheet.graph.Enumerates dependentsOf ∧
    final.entries.map (fun entry => entry.2.outcome.error) =
      [some .circularReference, some .circularReference, some .emptyFormula,
        some .invalidCell] ∧
    final.cell? ⟨0, 1⟩ = some reader ∧ reader.outcome.error = some .circularReference ∧
    (∀ text, reader.outcome.error ≠ some (.other text)) ∧
    (reader.outcome.error = some .emptyFormula ↔ reader.formula = []) ∧
    reader.outcome.value = 0.0 ∧
    ∃ origin, sheet.DependsOn ⟨0, 1⟩ origin ∧ sheet.OnCycle origin := by
  intro foreign sheet dependentsOf final reader
  have enumerates : sheet.graph.Enumerates dependentsOf := fun _ _ => List.mem_reverse
  have errors : final.entries.map (fun entry => entry.2.outcome.error) =
      [some .circularReference, some .circularReference, some .emptyFormula,
        some .invalidCell] := by
    decide +kernel
  have held : final.cell? ⟨0, 1⟩ = some reader := by decide +kernel
  obtain ⟨notForeign, blank, circular⟩ :=
    errors_attributed sheet dependentsOf enumerates _ reader held
  exact ⟨enumerates, errors, held, rfl, notForeign, blank, circular rfl⟩

end Spreadsheet.Sheet
