import Spreadsheet.Proofs.Formula.Arithmetic
import Spreadsheet.Proofs.Formula.Errors

/-!
# Dropping a dangling operator

A formula that ends in one operator too many is run without that operator, with an error
noted from the start. The machine reads its error nowhere, and whatever goes wrong later
replaces it with the note and without, so both runs go through the same values and the same
pending entries. In the end the note shows exactly where nothing else was wrong.
-/

namespace Spreadsheet

/-- The outcome with an invalid formula noted where nothing else was wrong. -/
def Outcome.noted (outcome : Outcome) : Outcome where
  value := outcome.value
  error := some (outcome.error.getD .invalidFormula)

namespace Machine

/-- The machine with an invalid formula noted where nothing else was wrong. -/
def noted (machine : Machine) : Machine where
  values := machine.values
  pending := machine.pending
  error := some (machine.error.getD .invalidFormula)

/-- An application goes the same way with an invalid formula noted. -/
theorem apply_noted (machine : Machine) (entry : Pending) :
    machine.noted.apply entry = (machine.apply entry).noted := by
  obtain ⟨values, pending, error⟩ := machine
  rcases values with _ | ⟨right, _ | ⟨left, values⟩⟩
  · cases entry <;> rfl
  · cases entry <;> rfl
  · cases entry with
    | group => rfl
    | operator operator =>
      simp only [apply, noted]
      cases operator.result? left right <;> rfl

/-- Applications in turn go the same way with an invalid formula noted. -/
theorem foldl_apply_noted (entries : List Pending) (machine : Machine) :
    entries.foldl apply machine.noted = (entries.foldl apply machine).noted := by
  induction entries generalizing machine with
  | nil => rfl
  | cons entry entries inductionHypothesis =>
    rw [List.foldl_cons, List.foldl_cons, apply_noted, inductionHypothesis]

/-- Applying what satisfies a condition goes the same way with an invalid formula noted. -/
theorem applyWhile_noted (machine : Machine) (condition : Pending → Bool) :
    machine.noted.applyWhile condition = (machine.applyWhile condition).noted :=
  foldl_apply_noted _ { machine with pending := machine.pending.dropWhile condition }

/-- An operator is pushed the same way with an invalid formula noted. -/
theorem pushOperator_noted (machine : Machine) (operator : Operator) :
    machine.noted.pushOperator operator = (machine.pushOperator operator).noted := by
  simp only [pushOperator, applyWhile_noted]
  rfl

/-- A group is closed the same way with an invalid formula noted. -/
theorem closeGroup_noted (machine : Machine) :
    machine.noted.closeGroup = machine.closeGroup.noted := by
  simp only [closeGroup, applyWhile_noted]
  rfl

end Machine

namespace Formula

variable {store : Store}

/-- A step goes the same way with an invalid formula noted. -/
theorem step_noted (store : Store) (machine : Machine) (token : Token) :
    step store machine.noted token = (step store machine token).map Machine.noted := by
  cases token with
  | reference label =>
    simp only [step]
    cases store.resolve label <;> rfl
  | operator operator => exact congrArg Except.ok (machine.pushOperator_noted operator)
  | closeGroup => exact congrArg Except.ok machine.closeGroup_noted
  | _ => rfl

/-- A scan goes the same way with an invalid formula noted. -/
theorem scan_noted (store : Store) (machine : Machine) (tokens : List Token) :
    scan store machine.noted tokens = (scan store machine tokens).map Machine.noted := by
  induction tokens generalizing machine with
  | nil => rfl
  | cons token tokens inductionHypothesis =>
    rw [scan_cons, scan_cons, step_noted]
    cases step store machine token with
    | error error => rfl
    | ok next => exact inductionHypothesis next

/-- What was noted in the machine is noted in the report. -/
theorem report_noted (first : Option Token) (machine : Machine) :
    report first machine.noted = (report first machine).noted := by
  unfold report
  simp only [Machine.noted]
  split
  · split <;> rfl
  · rfl

/-- A run with an invalid formula noted before reports it where nothing else was wrong. -/
theorem run_noted (store : Store) (tokens : List Token) :
    run store (some .invalidFormula) tokens = (run store none tokens).noted := by
  have scanned : scan store (.start (some .invalidFormula)) tokens =
      (scan store (.start none) tokens).map Machine.noted := scan_noted store (.start none) tokens
  rw [run, run, scanned]
  cases scan store (.start none) tokens with
  | error error => rfl
  | ok machine =>
    have drained : machine.noted.drain = machine.drain.noted := machine.applyWhile_noted _
    simp only [Except.map, drained, report_noted]

/-! ## The checks before the runs -/

section Checks

variable {formula : List Token}

/-- Three tokens are more than an empty group. -/
theorem not_emptyGroup_of_long (long : 3 ≤ formula.length) : isEmptyGroup formula = false := by
  unfold isEmptyGroup
  split
  · exact absurd long (by decide)
  · rfl

/-- A formula of three tokens or more that does not end in an operator is run as it is, if it
passes the checks. -/
theorem evaluate_of_closed (long : 3 ≤ formula.length)
    (closed : formula.getLast?.any Token.isOperator = false) :
    evaluate store formula =
      if endsInZeroDivision formula then .failed .divideByZero
      else if !formula.any Token.isOperand then .failed .invalidFormula
      else run store none formula := by
  have filled : formula ≠ [] := List.length_pos_iff.mp (Nat.lt_of_lt_of_le (by decide) long)
  simp [evaluate, hasDanglingOperator, closed, filled, not_emptyGroup_of_long long]

/-- With an operator too many it is run without the operator and as a formula that is invalid;
it is not checked for a division by zero then. -/
theorem evaluate_concat_of_closed (long : 3 ≤ formula.length)
    (closed : formula.getLast?.any Token.isOperator = false) (operator : Operator) :
    evaluate store (formula ++ [.operator operator]) =
      if !formula.any Token.isOperand then .failed .invalidFormula
      else run store (some .invalidFormula) formula := by
  have dangling : hasDanglingOperator (formula ++ [.operator operator]) = true := by
    simp [hasDanglingOperator, closed, Token.isOperator, Nat.lt_succ_of_le long]
  simp [evaluate, dangling, not_emptyGroup_of_long long]

end Checks

/-- An operator too many at the end changes nothing but the error, and that only if there was
none: a formula of three tokens or more that ends neither in an operator nor in a division by
a zero spelled out keeps its value, and keeps its error or gets that of an invalid formula. -/
theorem evaluate_concat_operator (store : Store) {formula : List Token}
    (long : 3 ≤ formula.length) (closed : formula.getLast?.any Token.isOperator = false)
    (unspelled : ¬ SpellsZeroDivision formula) (operator : Operator) :
    evaluate store (formula ++ [.operator operator]) =
      ⟨(evaluate store formula).value,
        some ((evaluate store formula).error.getD .invalidFormula)⟩ := by
  have noZero : ¬ endsInZeroDivision formula = true :=
    fun ends => unspelled ((endsInZeroDivision_iff formula).mp ends)
  rw [evaluate_concat_of_closed long closed, evaluate_of_closed long closed, if_neg noZero]
  split
  · rfl
  · exact run_noted store formula

/-- A sum of two numbers, one of them read, is kept with an operator behind it. So is the
division by zero inside another formula, with its error. -/
theorem evaluate_concat_operator_sum :
    let store : Store := fun _ => some { formula := ["2"], outcome := .ok 2.0 }
    let sum : List Token := [.number 1.0, .operator .add, .reference "A1"]
    let division : List Token :=
      [.number 1.0, .operator .divide, .openGroup, .reference "A1", .operator .subtract,
        .number 2.0, .closeGroup]
    3 ≤ sum.length ∧ sum.getLast?.any Token.isOperator = false ∧ ¬ SpellsZeroDivision sum ∧
      evaluate store (sum ++ [.operator .multiply]) = ⟨3.0, some .invalidFormula⟩ ∧
    3 ≤ division.length ∧ division.getLast?.any Token.isOperator = false ∧
      ¬ SpellsZeroDivision division ∧
      evaluate store (division ++ [.operator .add]) = ⟨0.0, some .divideByZero⟩ := by
  intro store sum division
  have sumUnspelled : ¬ SpellsZeroDivision sum := by
    rw [← endsInZeroDivision_iff]
    decide
  have divisionUnspelled : ¬ SpellsZeroDivision division := by
    rw [← endsInZeroDivision_iff]
    decide
  have sumKept := evaluate_concat_operator store (by decide) rfl sumUnspelled .multiply
  have divisionKept := evaluate_concat_operator store (by decide) rfl divisionUnspelled .add
  exact ⟨by decide, rfl, sumUnspelled, sumKept.trans (by decide +kernel), by decide, rfl,
    divisionUnspelled, divisionKept.trans (by decide +kernel)⟩

end Formula

end Spreadsheet
