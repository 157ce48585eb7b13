import Mathlib.Data.List.DropRight
import Spreadsheet.Proofs.Sheet.Calculation
import Spreadsheet.Sheet.History

/-!
# What the dirty addresses stand for

An operation touches an address if it sets or inserts a cell there or removes the cell that is
there. `Touches` says so apart from the sheet's bookkeeping: from the label that is read and the
cell that is held. One operation adds exactly the touched addresses to the dirty ones and changes
no formula elsewhere, so after a run the dirty addresses are those touched since what changed was
last forgotten, and every formula that differs from then is among them.
-/

namespace Spreadsheet

namespace SheetOperation

/-- Whether an operation forgets what changed; every calculation ends with that. -/
def forgets : SheetOperation → Bool
  | .clearDirty | .calculate _ => true
  | _ => false

/-- The label that an operation is given. -/
def label? : SheetOperation → Option String
  | .setFormula label _ | .insert label _ | .clear label => some label
  | _ => none

/-- The operation sets or inserts a cell at the address, or removes the one that is there. -/
inductive Touches (sheet : Sheet) (address : Address) : SheetOperation → Prop where
  | setFormula {label : String} {formula : List String}
      (named : Address.ofLabel label = .ok address) :
      Touches sheet address (.setFormula label formula)
  | setFormulaAt {formula : List String} :
      Touches sheet address (.setFormulaAt address formula)
  | insert {label : String} {cell : Cell} (named : Address.ofLabel label = .ok address) :
      Touches sheet address (.insert label cell)
  | clear {label : String} {cell : Cell} (named : Address.ofLabel label = .ok address)
      (held : sheet.cell? address = some cell) : Touches sheet address (.clear label)

/-- The operation is refused, or it is to store an outcome or to remove a cell where there is no
cell. -/
inductive IsIdle (sheet : Sheet) : SheetOperation → Prop where
  | refused {operation : SheetOperation} {problem : LabelError}
      (refuses : operation.attempt sheet = .error problem) : IsIdle sheet operation
  | setOutcome {address : Address} {outcome : Outcome}
      (vacant : sheet.cell? address = none) : IsIdle sheet (.setOutcome address outcome)
  | clear {label : String} {address : Address} (named : Address.ofLabel label = .ok address)
      (vacant : sheet.cell? address = none) : IsIdle sheet (.clear label)

variable {sheet : Sheet} {operation : SheetOperation} {address : Address}

/-! ## One operation -/

/-- Clearing a label removes the address it names, and fails as the label does. -/
theorem attempt_clear (sheet : Sheet) (label : String) :
    (clear label).attempt sheet = (Address.ofLabel label).map sheet.removeAt := by
  rw [attempt, Sheet.clear]
  cases Address.ofLabel label <;> rfl

/-- An operation is refused exactly if it is given a label that names no cell. -/
theorem attempt_eq_error_iff {problem : LabelError} :
    operation.attempt sheet = .error problem ↔
      ∃ label, operation.label? = some label ∧ Address.ofLabel label = .error problem := by
  have labelled {label : String} {Content : Type} (change : Address → Content) :
      (Address.ofLabel label).map change = .error problem ↔
        ∃ given, some label = some given ∧ Address.ofLabel given = .error problem := by
    simp only [Option.some.injEq, exists_eq_left']
    cases Address.ofLabel label <;> simp [Except.map]
  have unlabelled {changed : Sheet} :
      Except.ok changed = .error problem ↔
        ∃ given, none = some given ∧ Address.ofLabel given = .error problem := by
    simp
  cases operation with
  | setFormula label formula => exact labelled _
  | setFormulaAt address formula => exact unlabelled
  | insert label cell => exact labelled _
  | setOutcome address outcome => exact unlabelled
  | clear label =>
    rw [attempt_clear]
    exact labelled _
  | clearDirty => exact unlabelled
  | calculate options => exact unlabelled

end SheetOperation

/-! ## What a step adds to the dirty addresses -/

/-- From one sheet to the other exactly the touched addresses became dirty, and no formula
changed elsewhere. -/
structure Sheet.Tracks (before after : Sheet) (touched : Address → Prop) : Prop where
  mem_dirty : ∀ address, address ∈ after.dirty ↔ touched address ∨ address ∈ before.dirty
  formula?_eq : ∀ address, ¬ touched address → after.formula? address = before.formula? address

namespace Sheet.Tracks

variable {before middle after : Sheet} {touched later : Address → Prop}

/-- Nothing is touched where the dirty addresses and all formulas stay. -/
theorem of_untouched (untouched : ∀ address, ¬ touched address) (dirty : after.dirty = before.dirty)
    (formulas : ∀ address, after.formula? address = before.formula? address) :
    before.Tracks after touched where
  mem_dirty address := by
    rw [dirty, or_iff_right (untouched address)]
  formula?_eq address _ := formulas address

/-- Storing a cell touches its address. -/
theorem put {sheet : Sheet} {named : Address} (cell : Cell)
    (touches : ∀ address, touched address ↔ named = address) :
    sheet.Tracks (sheet.put named cell) touched where
  mem_dirty address := by
    rw [mem_dirty_put, touches]
  formula?_eq address untouched := by
    rw [touches] at untouched
    rw [formula?_put, if_neg untouched]

/-- Removing a cell touches its address. -/
theorem removeAt {sheet : Sheet} {named : Address} (holds : sheet.holds named = true)
    (touches : ∀ address, touched address ↔ named = address) :
    sheet.Tracks (sheet.removeAt named) touched where
  mem_dirty address := by
    rw [mem_dirty_removeAt holds, touches]
  formula?_eq address untouched := by
    rw [touches] at untouched
    rw [formula?_removeAt, if_neg untouched]

/-- What two steps touch is what either of them touches. -/
theorem trans (first : before.Tracks middle touched) (second : middle.Tracks after later) :
    before.Tracks after fun address => touched address ∨ later address where
  mem_dirty address := by
    rw [second.mem_dirty, first.mem_dirty, or_left_comm, or_assoc]
  formula?_eq address untouched := by
    obtain ⟨notFirst, notLater⟩ := not_or.mp untouched
    exact (second.formula?_eq address notLater).trans (first.formula?_eq address notFirst)

end Sheet.Tracks

namespace SheetOperation

variable {sheet : Sheet} {operation : SheetOperation}

/-- An operation with a label comes down to what it does at the address that the label names; if
there is none, it touches nothing. -/
theorem tracks_label {label : String} {change : Address → Sheet}
    (attempts : operation.attempt sheet = (Address.ofLabel label).map change)
    (named : ∀ address, operation.Touches sheet address → Address.ofLabel label = .ok address)
    (tracks : ∀ address, Address.ofLabel label = .ok address →
      sheet.Tracks (change address) fun other => operation.Touches sheet other) :
    sheet.Tracks (operation.apply sheet) fun address => operation.Touches sheet address := by
  rw [apply, attempts]
  cases read : Address.ofLabel label with
  | error problem =>
    refine .of_untouched (fun address touches => ?_) rfl fun _ => rfl
    cases read.symm.trans (named address touches)
  | ok address => exact tracks address read

/-- Putting a cell where a label names it touches that address. -/
theorem tracks_put_label {label : String} {cell : Cell}
    (attempts : operation.attempt sheet =
      (Address.ofLabel label).map fun address => sheet.put address cell)
    (touches : ∀ address, operation.Touches sheet address ↔ Address.ofLabel label = .ok address) :
    sheet.Tracks (operation.apply sheet) fun address => operation.Touches sheet address := by
  refine tracks_label attempts (fun address => (touches address).mp) fun address named => ?_
  refine .put cell fun other => ?_
  rw [touches, named, Except.ok.injEq]

/-- An operation makes dirty what it touches and changes no formula elsewhere, refused or not. -/
theorem tracks_apply (keeps : operation.forgets = false) :
    sheet.Tracks (operation.apply sheet) fun address => operation.Touches sheet address := by
  cases operation with
  | setFormula label formula =>
    have attempts : (setFormula label formula).attempt sheet =
        (Address.ofLabel label).map fun address => sheet.put address (.ofFormula formula) := rfl
    refine tracks_put_label attempts fun address => ⟨?_, .setFormula⟩
    intro touches
    cases touches with
    | setFormula named => exact named
  | setFormulaAt address formula =>
    refine .put (.ofFormula formula) fun other => ⟨?_, ?_⟩
    · intro touches
      cases touches
      rfl
    · rintro rfl
      exact .setFormulaAt
  | insert label cell =>
    refine tracks_put_label rfl fun address => ⟨?_, .insert⟩
    intro touches
    cases touches with
    | insert named => exact named
  | setOutcome address outcome =>
    refine .of_untouched ?_ rfl fun other => sheet.formula?_setOutcome address other outcome
    intro other touches
    cases touches
  | clear label =>
    refine tracks_label (attempt_clear sheet label) ?_ fun address named => ?_
    · intro address touches
      cases touches with
      | clear named => exact named
    · cases held : sheet.cell? address with
      | none =>
        rw [Sheet.removeAt_of_vacant held]
        refine .of_untouched ?_ rfl fun _ => rfl
        intro other touches
        cases touches with
        | clear read otherHeld =>
          cases named.symm.trans read
          cases held.symm.trans otherHeld
      | some cell =>
        refine .removeAt (Sheet.holds_iff.mpr ⟨cell, held⟩) fun other => ⟨?_, ?_⟩
        · intro touches
          cases touches with
          | clear read => exact Except.ok.inj (named.symm.trans read)
        · rintro rfl
          exact .clear named held
  | clearDirty => cases keeps
  | calculate options => cases keeps

/-- An idle operation leaves the cells and the dirty addresses as they were. -/
theorem IsIdle.unchanged (idle : operation.IsIdle sheet) :
    (∀ address, (operation.apply sheet).cell? address = sheet.cell? address) ∧
      (operation.apply sheet).dirtyAddresses = sheet.dirtyAddresses := by
  cases idle with
  | refused refuses =>
    rw [apply, refuses]
    exact ⟨fun _ => rfl, rfl⟩
  | @setOutcome address outcome vacant =>
    refine ⟨fun other => ?_, rfl⟩
    refine (sheet.cell?_setOutcome address other outcome).trans ?_
    split
    · rename_i same
      rw [← same, vacant]
      rfl
    · rfl
  | @clear label address named vacant =>
    have unchanged : (SheetOperation.clear label).apply sheet = sheet := by
      rw [apply, attempt_clear, named]
      exact Sheet.removeAt_of_vacant vacant
    rw [unchanged]
    exact ⟨fun _ => rfl, rfl⟩

end SheetOperation

/-! ## Runs -/

namespace Sheet

/-- One of the operations, in its turn, touches the address. -/
def TouchedBy (sheet : Sheet) (operations : List SheetOperation) (address : Address) : Prop :=
  ∃ earlier operation later, operations = earlier ++ operation :: later ∧
    operation.Touches (sheet.run earlier) address

/-- An operation and others after it touch what it touches itself, and what they touch on the sheet
it leaves. -/
theorem touchedBy_cons {sheet : Sheet} {operation : SheetOperation}
    {operations : List SheetOperation} {address : Address} :
    sheet.TouchedBy (operation :: operations) address ↔
      operation.Touches sheet address ∨
        (operation.apply sheet).TouchedBy operations address := by
  constructor
  · rintro ⟨earlier, touching, later, split, touches⟩
    cases earlier with
    | nil =>
      cases split
      exact .inl touches
    | cons first earlier =>
      cases split
      exact .inr ⟨earlier, touching, later, rfl, touches⟩
  · rintro (touches | ⟨earlier, touching, later, rfl, touches⟩)
    · exact ⟨[], operation, operations, rfl, touches⟩
    · exact ⟨operation :: earlier, touching, later, rfl, touches⟩

/-- A run that forgets nothing makes dirty what its operations touch. -/
theorem tracks_run {operations : List SheetOperation}
    (keep : ∀ operation ∈ operations, operation.forgets = false) (sheet : Sheet) :
    sheet.Tracks (sheet.run operations) (sheet.TouchedBy operations) := by
  induction operations generalizing sheet with
  | nil =>
    refine .of_untouched ?_ rfl fun _ => rfl
    rintro address ⟨earlier, operation, later, split, -⟩
    cases earlier <;> cases split
  | cons operation operations inductionHypothesis =>
    obtain ⟨keeps, keepLater⟩ := List.forall_mem_cons.mp keep
    have first : sheet.Tracks (operation.apply sheet) fun address =>
      operation.Touches sheet address := operation.tracks_apply keeps
    have whole := first.trans (inductionHypothesis keepLater (operation.apply sheet))
    simp only [← touchedBy_cons] at whole
    exact whole

/-- The operations up to the last one that forgets what changed, which is the last of them. -/
def untilForgotten (operations : List SheetOperation) : List SheetOperation :=
  operations.rdropWhile fun operation => !operation.forgets

/-- The operations after the last one that forgets what changed. -/
def sinceForgotten (operations : List SheetOperation) : List SheetOperation :=
  operations.rtakeWhile fun operation => !operation.forgets

/-- Two histories in a row are run one after the other. -/
theorem run_append (sheet : Sheet) (earlier later : List SheetOperation) :
    sheet.run (earlier ++ later) = (sheet.run earlier).run later :=
  List.foldl_append

/-- Nothing is dirty once what changed has been forgotten, nor at the start. -/
theorem dirty_untilForgotten (operations : List SheetOperation) :
    (empty.run (untilForgotten operations)).dirty = ∅ := by
  induction operations using List.reverseRecOn with
  | nil => rfl
  | append_singleton operations last inductionHypothesis =>
    rw [untilForgotten, List.rdropWhile_concat]
    split
    · exact inductionHypothesis
    · rename_i forgets
      rw [run_append]
      cases last with
      | clearDirty => rfl
      | calculate options => rfl
      | _ => exact absurd rfl forgets

/-- The dirty addresses stand in row-major order, none of them twice. -/
theorem pairwise_dirtyAddresses (sheet : Sheet) :
    sheet.dirtyAddresses.Pairwise fun first second =>
      first.row < second.row ∨ (first.row = second.row ∧ first.column < second.column) :=
  Std.TreeSet.ordered_toList.imp (Address.compare_eq_lt_iff _ _).mp

/-- After any history the dirty addresses, each listed once in row-major order, are exactly those
that an operation has set, inserted or removed since what changed was last forgotten or else since
the start, and an address that holds another formula than then, or a cell where there was none, or
none where there was one, is among them. An operation is refused exactly if it is given a label
that names no cell; a refused operation, storing an outcome where there is no cell and removing
where there is none leave the cells and the dirty addresses as they were. -/
theorem dirtyAddresses_exact (operations : List SheetOperation) :
    let forgotten := empty.run (untilForgotten operations)
    let now := empty.run operations
    (∀ address, now.formula? address ≠ forgotten.formula? address →
      address ∈ now.dirtyAddresses) ∧
    (∀ address, address ∈ now.dirtyAddresses ↔
      forgotten.TouchedBy (sinceForgotten operations) address) ∧
    (now.dirtyAddresses.Pairwise fun first second =>
      first.row < second.row ∨ (first.row = second.row ∧ first.column < second.column)) ∧
    ∀ operation : SheetOperation,
      (∀ problem, operation.attempt now = .error problem ↔
        ∃ label, operation.label? = some label ∧ Address.ofLabel label = .error problem) ∧
      (operation.IsIdle now →
        (operation.apply now).entries = now.entries ∧
        (operation.apply now).dirtyAddresses = now.dirtyAddresses) := by
  intro forgotten now
  have keep : ∀ operation ∈ sinceForgotten operations, operation.forgets = false := by
    intro operation member
    simpa using List.mem_rtakeWhile_imp member
  -- The run is cut where what changed was last forgotten; nothing is dirty there.
  have reached : forgotten.run (sinceForgotten operations) = now := by
    rw [← run_append, untilForgotten, sinceForgotten, List.rdropWhile_append_rtakeWhile]
  have tracks := tracks_run keep forgotten
  rw [reached] at tracks
  have exact : ∀ address, address ∈ now.dirtyAddresses ↔
      forgotten.TouchedBy (sinceForgotten operations) address := by
    intro address
    rw [mem_dirtyAddresses, tracks.mem_dirty, dirty_untilForgotten]
    simp
  refine ⟨fun address changed => ?_, exact, now.pairwise_dirtyAddresses, fun operation => ?_⟩
  · rw [exact]
    by_contra untouched
    exact changed (tracks.formula?_eq address untouched)
  · refine ⟨fun problem => SheetOperation.attempt_eq_error_iff, fun idle => ?_⟩
    obtain ⟨cells, dirty⟩ := idle.unchanged
    exact ⟨entries_ext cells, dirty⟩

/-- Since the last time that what changed was forgotten, one cell was set to the formula it had,
one was removed under another spelling of its label, one was inserted and removed again, and one
got an outcome; a label was refused, and two operations found no cell. -/
theorem dirtyAddresses_exact_aliases :
    let operations : List SheetOperation :=
      [.setFormula "A1" ["1"], .setFormula "B1" ["2"], .setFormula "D4" ["3"], .clearDirty,
        .setFormula "a01" ["1"], .clear "b1", .clear "B1", .insert "C3" { formula := ["A1"] },
        .clear "c03", .setOutcome ⟨3, 3⟩ (.ok 3.0), .setFormula "1A" ["4"],
        .setOutcome ⟨9, 9⟩ (.ok 1.0)]
    let forgotten := empty.run (untilForgotten operations)
    let now := empty.run operations
    now.dirtyAddresses = [⟨0, 0⟩, ⟨0, 1⟩, ⟨2, 2⟩] ∧
    now.formula? ⟨0, 1⟩ ≠ forgotten.formula? ⟨0, 1⟩ ∧ ⟨0, 1⟩ ∈ now.dirtyAddresses ∧
    now.formula? ⟨0, 0⟩ = forgotten.formula? ⟨0, 0⟩ ∧
    forgotten.TouchedBy (sinceForgotten operations) ⟨0, 0⟩ ∧
    now.formula? ⟨2, 2⟩ = none ∧ forgotten.formula? ⟨2, 2⟩ = none ∧
    forgotten.TouchedBy (sinceForgotten operations) ⟨2, 2⟩ ∧
    ¬ forgotten.TouchedBy (sinceForgotten operations) ⟨3, 3⟩ ∧
    (SheetOperation.setFormula "1A" ["4"]).attempt now = .error (.noColumn "1A") ∧
    (SheetOperation.clear "b01").IsIdle now ∧
    ((SheetOperation.clear "b01").apply now).entries = now.entries ∧
    ((SheetOperation.clear "b01").apply now).dirtyAddresses = now.dirtyAddresses := by
  intro operations forgotten now
  have listed : now.dirtyAddresses = [⟨0, 0⟩, ⟨0, 1⟩, ⟨2, 2⟩] := by decide +kernel
  have changed : now.formula? ⟨0, 1⟩ ≠ forgotten.formula? ⟨0, 1⟩ := by decide +kernel
  have same : now.formula? ⟨0, 0⟩ = forgotten.formula? ⟨0, 0⟩ := by decide +kernel
  have goneNow : now.formula? ⟨2, 2⟩ = none := by decide +kernel
  have goneBefore : forgotten.formula? ⟨2, 2⟩ = none := by decide +kernel
  have named : Address.ofLabel "b01" = .ok ⟨0, 1⟩ := by decide +kernel
  have idle : (SheetOperation.clear "b01").IsIdle now := .clear named (by decide +kernel)
  obtain ⟨contains, touched, -, operationsOf⟩ := dirtyAddresses_exact operations
  have refused := ((operationsOf (.setFormula "1A" ["4"])).1 (.noColumn "1A")).mpr
    ⟨"1A", rfl, by decide +kernel⟩
  obtain ⟨entries, dirty⟩ := (operationsOf (.clear "b01")).2 idle
  refine ⟨listed, changed, contains _ changed, same, (touched _).mp ?_, goneNow, goneBefore,
    (touched _).mp ?_, fun touches => ?_, refused, idle, entries, dirty⟩
  · rw [listed]
    decide
  · rw [listed]
    decide
  · have member := (touched _).mpr touches
    rw [listed] at member
    exact absurd member (by decide)

end Sheet

end Spreadsheet
