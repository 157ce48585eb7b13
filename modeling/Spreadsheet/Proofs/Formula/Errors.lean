import Spreadsheet.Proofs.Formula.Dependence

/-!
# Where the errors of an evaluation come from

The machine never takes an error back: a step leaves the error as it is or puts one of
the machine's own in its place. A formula that ends the scan without an error has
therefore met none on the way. The two results to look for say what every exit of an
evaluation has in common: an outcome with an error names one that the formula earned or
that a reference brought in, and an outcome without one has resolved every reference.
-/

namespace Spreadsheet

namespace Machine

/-- What becomes of the error: it stays, or the machine replaces it by one of its own. -/
def ErrorStep (before after : Machine) : Prop :=
  after.error = before.error ∨
    after.error = some .divideByZero ∨ after.error = some .invalidOperator

namespace ErrorStep

variable {before middle after : Machine}

/-- Where nothing happens the error stays. -/
theorem refl (machine : Machine) : ErrorStep machine machine :=
  .inl rfl

/-- What becomes of an error in two steps is what may become of it in one. -/
theorem trans (first : ErrorStep before middle) (second : ErrorStep middle after) :
    ErrorStep before after := by
  rcases second with same | own
  · rwa [ErrorStep, same]
  · exact .inr own

/-- Without an error in the end there was none before. -/
theorem error_eq_none (step : ErrorStep before after) (clean : after.error = none) :
    before.error = none := by
  rcases step with same | divided | misused
  · rw [← same, clean]
  · cases divided.symm.trans clean
  · cases misused.symm.trans clean

end ErrorStep

/-- An application keeps the error or replaces it. -/
theorem errorStep_apply (machine : Machine) (entry : Pending) :
    ErrorStep machine (machine.apply entry) := by
  obtain ⟨values, pending, error⟩ := machine
  rcases values with _ | ⟨right, _ | ⟨left, values⟩⟩
  · exact .inr (.inr (by cases entry <;> rfl))
  · exact .inr (.inr (by cases entry <;> rfl))
  · cases entry with
    | group => exact .inr (.inr rfl)
    | operator operator =>
      cases result : operator.result? left right with
      | some value => exact .inl (by simp only [apply, result])
      | none => exact .inr (.inl (by simp only [apply, result]))

/-- Applications in turn keep the error or replace it. -/
theorem errorStep_foldl_apply (entries : List Pending) (machine : Machine) :
    ErrorStep machine (entries.foldl apply machine) := by
  induction entries generalizing machine with
  | nil => exact .refl machine
  | cons entry entries inductionHypothesis =>
    exact (machine.errorStep_apply entry).trans (inductionHypothesis _)

/-- Applying what satisfies a condition keeps the error or replaces it. -/
theorem errorStep_applyWhile (machine : Machine) (condition : Pending → Bool) :
    ErrorStep machine (machine.applyWhile condition) :=
  errorStep_foldl_apply _ { machine with pending := machine.pending.dropWhile condition }

end Machine

namespace Store

/-- The tokens that are refused, and the error of each. An error that a cell holds is passed
on as it is, but that a cell is empty counts as a cell without a formula. -/
inductive Refuses (store : Store) : Token → CellError → Prop where
  | unknown (text : String) : Refuses store (.unknown text) .invalidFormula
  | missing {label : String} (absent : store label = none) :
      Refuses store (.reference label) .invalidCell
  | unwritten {label : String} {cell : Cell} (held : store label = some cell)
      (empty : cell.formula = [])
      (blank : cell.outcome.error = none ∨ cell.outcome.error = some .emptyFormula) :
      Refuses store (.reference label) .invalidCell
  | carried {label : String} {cell : Cell} {error : CellError} (held : store label = some cell)
      (failed : cell.outcome.error = some error) (notBlank : error ≠ .emptyFormula) :
      Refuses store (.reference label) error

variable {store : Store} {label : String}

/-- A reference that resolves reads the value of a cell that has a formula. -/
theorem resolve_eq_ok {value : Float} (resolved : store.resolve label = .ok value) :
    ∃ cell, store label = some cell ∧ cell.formula ≠ [] ∧ cell.outcome.value = value ∧
      (cell.outcome.error = none ∨ cell.outcome.error = some .emptyFormula) := by
  unfold resolve at resolved
  split at resolved
  · cases resolved
  · rename_i cell held
    refine ⟨cell, held, ?_⟩
    cases empty : cell.formula.isEmpty with
    | true =>
      rw [empty] at resolved
      split at resolved <;> cases resolved
    | false =>
      have filled : cell.formula ≠ [] := by
        intro nothing
        rw [nothing] at empty
        cases empty
      rw [empty] at resolved
      split at resolved
      · rename_i clean
        cases resolved
        exact ⟨filled, rfl, .inl clean⟩
      · rename_i blank
        cases resolved
        exact ⟨filled, rfl, .inr blank⟩
      · cases resolved

/-- A reference does not resolve exactly if it is refused, with the same error. -/
theorem resolve_eq_error_iff {error : CellError} :
    store.resolve label = .error error ↔ store.Refuses (.reference label) error := by
  constructor
  · intro unresolved
    unfold resolve at unresolved
    split at unresolved
    · rename_i absent
      cases unresolved
      exact .missing absent
    rename_i cell held
    have empty (isEmpty : cell.formula.isEmpty = true) : cell.formula = [] :=
      List.isEmpty_iff.mp isEmpty
    split at unresolved
    · rename_i clean
      split at unresolved <;> cases unresolved
      exact .unwritten held (empty ‹_›) (.inl clean)
    · rename_i blank
      split at unresolved <;> cases unresolved
      exact .unwritten held (empty ‹_›) (.inr blank)
    · rename_i other notBlank failed
      cases unresolved
      exact .carried held failed notBlank
  · intro refused
    cases refused with
    | missing absent => rw [resolve, absent]
    | unwritten held empty blank =>
      rcases blank with clean | blank
      · simp [resolve, held, empty, clean]
      · simp [resolve, held, empty, blank]
    | carried held failed notBlank => simp only [resolve, held, failed]

/-- A reference that does not resolve finds no formula, or meets the error of its cell. That a
cell is empty is never passed on as such. -/
theorem resolve_eq_error {error : CellError} (unresolved : store.resolve label = .error error) :
    (error = .invalidCell ∧ ∀ cell, store label = some cell → cell.formula = []) ∨
      ∃ cell, store label = some cell ∧ cell.outcome.error = some error ∧
        error ≠ .emptyFormula := by
  cases resolve_eq_error_iff.mp unresolved with
  | missing absent =>
    refine .inl ⟨rfl, fun cell held => ?_⟩
    cases absent.symm.trans held
  | unwritten held empty =>
    refine .inl ⟨rfl, fun cell found => ?_⟩
    cases held.symm.trans found
    exact empty
  | carried held failed notBlank => exact .inr ⟨_, held, failed, notBlank⟩

end Store

namespace Formula

variable {store : Store} {tokens : List Token} {machine after : Machine}

/-! ## The scan -/

/-- A reference that is scanned has resolved, and its value is on top. -/
theorem step_reference_eq_ok {label : String} :
    step store machine (.reference label) = .ok after ↔
      ∃ value, store.resolve label = .ok value ∧ machine.pushValue value = after := by
  rw [step]
  cases store.resolve label with
  | error error => simp [Except.map]
  | ok value => simp [Except.map]

/-- A step that goes through keeps the error or replaces it, and has resolved its reference. -/
theorem step_eq_ok {token : Token} (went : step store machine token = .ok after) :
    Machine.ErrorStep machine after ∧
      ∀ label ∈ references [token], ∃ value, store.resolve label = .ok value := by
  cases token with
  | reference label =>
    cases resolved : store.resolve label with
    | error error =>
      rw [step, resolved] at went
      cases went
    | ok value =>
      rw [step, resolved] at went
      cases went
      refine ⟨.refl _, fun other member => ?_⟩
      cases List.mem_singleton.mp member
      exact ⟨value, resolved⟩
  | number value =>
    cases went
    exact ⟨.refl _, List.forall_mem_nil _⟩
  | openGroup =>
    cases went
    exact ⟨.refl _, List.forall_mem_nil _⟩
  | closeGroup =>
    cases went
    exact ⟨Machine.errorStep_applyWhile _ _, List.forall_mem_nil _⟩
  | operator operator =>
    cases went
    exact ⟨Machine.errorStep_applyWhile _ _, List.forall_mem_nil _⟩
  | unknown text => cases went

/-- A step ends the scan exactly if its token is refused, whatever the machine holds. -/
theorem step_eq_error_iff {token : Token} {error : CellError} :
    step store machine token = .error error ↔ store.Refuses token error := by
  cases token with
  | reference label =>
    rw [← Store.resolve_eq_error_iff, step]
    cases store.resolve label <;> simp [Except.map]
  | unknown text =>
    constructor
    · rintro ⟨⟩
      exact .unknown text
    · rintro ⟨⟩
      rfl
  | _ =>
    constructor
    · rintro ⟨⟩
    · rintro ⟨⟩

/-- A step is refused for an unknown token or a reference that does not resolve. -/
theorem step_eq_error {token : Token} {error : CellError}
    (refused : step store machine token = .error error) :
    error = .invalidFormula ∨
      ∃ label ∈ references [token], store.resolve label = .error error := by
  have refuses := step_eq_error_iff.mp refused
  cases token with
  | reference label =>
    exact .inr ⟨label, List.mem_singleton_self label, Store.resolve_eq_error_iff.mpr refuses⟩
  | unknown text =>
    cases refuses
    exact .inl rfl
  | _ => cases refuses

/-- Tokens are scanned one after the other. -/
theorem scan_cons (store : Store) (machine : Machine) (token : Token) (tokens : List Token) :
    scan store machine (token :: tokens) =
      (step store machine token).bind fun next => scan store next tokens :=
  List.foldlM_cons

/-- A scan succeeds if the first token and then the others are scanned. -/
theorem scan_cons_eq_ok {token : Token} :
    scan store machine (token :: tokens) = .ok after ↔
      ∃ next, step store machine token = .ok next ∧ scan store next tokens = .ok after := by
  rw [scan_cons]
  cases step store machine token with
  | error error => simp [Except.bind]
  | ok next => simp [Except.bind]

/-- A scan that succeeds keeps the error or replaces it, and has resolved all references. -/
theorem scan_eq_ok (went : scan store machine tokens = .ok after) :
    Machine.ErrorStep machine after ∧
      ∀ label ∈ references tokens, ∃ value, store.resolve label = .ok value := by
  induction tokens generalizing machine with
  | nil =>
    cases went
    exact ⟨.refl _, List.forall_mem_nil _⟩
  | cons token tokens inductionHypothesis =>
    rw [scan_cons] at went
    cases first : step store machine token with
    | error error =>
      rw [first] at went
      cases went
    | ok next =>
      rw [first] at went
      obtain ⟨firstStep, firstResolves⟩ := step_eq_ok first
      obtain ⟨laterSteps, laterResolves⟩ := inductionHypothesis went
      refine ⟨firstStep.trans laterSteps, fun label member => ?_⟩
      rcases mem_references_cons.mp member with here | later
      · exact firstResolves label here
      · exact laterResolves label later

/-- A scan ends with an unknown token or with the error of a reference. -/
theorem scan_eq_error {error : CellError} (ended : scan store machine tokens = .error error) :
    error = .invalidFormula ∨
      ∃ label ∈ references tokens, store.resolve label = .error error := by
  induction tokens generalizing machine with
  | nil => cases ended
  | cons token tokens inductionHypothesis =>
    rw [scan_cons] at ended
    cases first : step store machine token with
    | error met =>
      rw [first] at ended
      cases ended
      refine (step_eq_error first).imp_right ?_
      rintro ⟨label, member, unresolved⟩
      exact ⟨label, mem_references_cons.mpr (.inl member), unresolved⟩
    | ok next =>
      rw [first] at ended
      refine (inductionHypothesis ended).imp_right ?_
      rintro ⟨label, member, unresolved⟩
      exact ⟨label, mem_references_cons.mpr (.inr member), unresolved⟩

/-! ## The report -/

/-- A report passes the machine's error on, or finds that the formula is none. -/
theorem report_error (first : Option Token) (machine : Machine) :
    (report first machine).error = machine.error ∨
      (report first machine).error = some .invalidFormula := by
  unfold report
  split
  · split
    · cases machine.error with
      | none => exact .inr rfl
      | some error => exact .inl rfl
    · exact .inl rfl
  · cases machine.error with
    | none => exact .inr rfl
    | some error => exact .inl rfl

/-- A report without an error is that of a machine without one, and of a number. -/
theorem report_clean {first : Option Token} (clean : (report first machine).error = none) :
    machine.error = none ∧ (report first machine).value.isNaN = false := by
  unfold report at clean ⊢
  split at clean
  · split at clean
    · cases clean
    · rename_i isNumber
      rw [if_neg isNumber]
      exact ⟨clean, eq_false_of_ne_true isNumber⟩
  · cases clean

/-! ## The evaluation -/

/-- A run without an error began without one and has resolved every reference. -/
theorem run_clean {repair : Option CellError} (clean : (run store repair tokens).error = none) :
    repair = none ∧ (∀ label ∈ references tokens, ∃ value, store.resolve label = .ok value) ∧
      (run store repair tokens).value.isNaN = false := by
  unfold run at clean ⊢
  cases scanned : scan store (.start repair) tokens with
  | error error =>
    rw [scanned] at clean
    cases clean
  | ok machine =>
    rw [scanned] at clean
    obtain ⟨scanStep, resolves⟩ := scan_eq_ok scanned
    obtain ⟨drained, isNumber⟩ := report_clean clean
    have drainStep := machine.errorStep_applyWhile fun _ => true
    exact ⟨(scanStep.trans drainStep).error_eq_none drained, resolves, isNumber⟩

/-- The errors that an evaluation finds by itself in a formula that is not empty. -/
def ownErrors : List CellError :=
  [.invalidFormula, .missingParentheses, .divideByZero, .invalidOperator]

/-- An error of a run was there before, was found by the run or was met by a reference. In the
last case the run reports zero. -/
theorem error_of_run {repair : Option CellError} {error : CellError}
    (failed : (run store repair tokens).error = some error) :
    repair = some error ∨ error ∈ ownErrors ∨
      (run store repair tokens = .zero error ∧
        ∃ label ∈ references tokens, store.resolve label = .error error) := by
  unfold run at failed ⊢
  cases scanned : scan store (.start repair) tokens with
  | error met =>
    rw [scanned] at failed
    cases failed
    rcases scan_eq_error scanned with rfl | unresolved
    · exact .inr (.inl (by decide))
    · exact .inr (.inr ⟨rfl, unresolved⟩)
  | ok machine =>
    rw [scanned] at failed
    have steps := (scan_eq_ok scanned).1.trans (machine.errorStep_applyWhile fun _ => true)
    rcases report_error tokens.head? machine.drain with passedOn | invalid
    · have drained := passedOn.symm.trans failed
      rcases steps with same | divided | misused
      · exact .inl (same.symm.trans drained)
      · cases divided.symm.trans drained
        exact .inr (.inl (by decide))
      · cases misused.symm.trans drained
        exact .inr (.inl (by decide))
    · cases invalid.symm.trans failed
      exact .inr (.inl (by decide))

/-- A formula that is not empty fails a check before the scan, or it is scanned as it is or
without its last token. -/
theorem evaluate_exits (store : Store) {formula : List Token} (filled : formula ≠ []) :
    (∃ error ∈ ownErrors, evaluate store formula = .failed error) ∨
      evaluate store formula = run store none formula ∨
      evaluate store formula = run store (some .invalidFormula) formula.dropLast := by
  have notEmpty : ¬ formula.isEmpty = true := fun empty => filled (List.isEmpty_iff.mp empty)
  simp only [evaluate]
  rw [if_neg notEmpty]
  generalize scanned : (if hasDanglingOperator formula = true then formula.dropLast
    else formula) = tokens
  generalize repaired : (if hasDanglingOperator formula = true then some CellError.invalidFormula
    else none) = repair
  split
  · exact .inl ⟨.missingParentheses, by decide, rfl⟩
  split
  · exact .inl ⟨.divideByZero, by decide, rfl⟩
  split
  · exact .inl ⟨.invalidFormula, by decide, rfl⟩
  refine .inr ?_
  subst scanned repaired
  cases hasDanglingOperator formula with
  | false => exact .inl rfl
  | true => exact .inr rfl

/-- An evaluation without an error is that of a formula, has resolved every reference and has
come to a number. -/
theorem evaluate_clean {formula : List Token} (clean : (evaluate store formula).error = none) :
    formula ≠ [] ∧ (∀ label ∈ references formula, ∃ value, store.resolve label = .ok value) ∧
      (evaluate store formula).value.isNaN = false := by
  have filled : formula ≠ [] := by
    rintro rfl
    cases clean
  rcases evaluate_exits store filled with ⟨error, -, exit⟩ | exit | exit
  · rw [exit] at clean
    cases clean
  · rw [exit] at clean ⊢
    obtain ⟨-, resolves, isNumber⟩ := run_clean clean
    exact ⟨filled, resolves, isNumber⟩
  · rw [exit] at clean
    obtain ⟨unrepaired, -⟩ := run_clean clean
    cases unrepaired

/-- An error of an evaluation says that the formula is empty, was found in the formula, or was
met by one of its references. In the last case the evaluation reports zero. -/
theorem error_of_evaluate {formula : List Token} {error : CellError}
    (failed : (evaluate store formula).error = some error) :
    (formula = [] ∧ error = .emptyFormula) ∨
      (formula ≠ [] ∧ (error ∈ ownErrors ∨
        (evaluate store formula = .zero error ∧
          ∃ label ∈ references formula, store.resolve label = .error error))) := by
  by_cases filled : formula = []
  · subst filled
    cases failed
    exact .inl ⟨rfl, rfl⟩
  · refine .inr ⟨filled, ?_⟩
    rcases evaluate_exits store filled with ⟨own, listed, exit⟩ | exit | exit
    · rw [exit] at failed
      cases failed
      exact .inl listed
    · rw [exit] at failed ⊢
      exact (error_of_run failed).resolve_left fun before => nomatch before
    · rw [exit] at failed ⊢
      rcases error_of_run failed with repaired | listed | ⟨zero, label, member, unresolved⟩
      · cases repaired
        exact .inl (by decide)
      · exact .inl listed
      · exact .inr ⟨zero, label, references_dropLast_subset formula member, unresolved⟩

/-- Only an empty formula evaluates to the error of one. -/
theorem eq_nil_of_error_emptyFormula {formula : List Token}
    (failed : (evaluate store formula).error = some .emptyFormula) : formula = [] := by
  rcases error_of_evaluate failed with ⟨empty, -⟩ | ⟨-, own | ⟨-, label, -, unresolved⟩⟩
  · exact empty
  · exact absurd own (by decide)
  · rcases Store.resolve_eq_error unresolved with ⟨missing, -⟩ | ⟨cell, -, -, notBlank⟩
    · cases missing
    · exact absurd rfl notBlank

end Formula

end Spreadsheet
