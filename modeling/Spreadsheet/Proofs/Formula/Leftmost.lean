import Spreadsheet.Proofs.Formula.Arithmetic
import Spreadsheet.Proofs.Formula.Errors

/-!
# The leftmost refused token decides

Unknown tokens and references that do not resolve are refused, and the first of them ends
the scan. Whether a token is refused depends on the store alone and not on the machine, so
it makes no difference what the machine has met by then. The checks before the scan see
none of this: a formula that holds an operand and does not end in a division by a zero
spelled out always comes to be scanned.
-/

namespace Spreadsheet.Formula

variable {store : Store} {tokens before after : List Token} {token : Token} {error : CellError}

/-! ## The scan -/

/-- The error of the first token that is refused. -/
def RefusedFirst (store : Store) (tokens : List Token) (error : CellError) : Prop :=
  ∃ before token after, tokens = before ++ token :: after ∧
    (∀ earlier ∈ before, ∀ other, ¬ store.Refuses earlier other) ∧ store.Refuses token error

/-- What is refused first is so behind a token that passes. -/
theorem RefusedFirst.cons {first : Token} (passes : ∀ other, ¬ store.Refuses first other)
    (later : RefusedFirst store tokens error) : RefusedFirst store (first :: tokens) error := by
  obtain ⟨before, token, after, rfl, accepted, refused⟩ := later
  exact ⟨first :: before, token, after, rfl, List.forall_mem_cons.mpr ⟨passes, accepted⟩, refused⟩

/-- Of the tokens that are refused, one is the first. -/
theorem exists_refusedFirst (refused : ∃ token ∈ tokens, ∃ error, store.Refuses token error) :
    ∃ error, RefusedFirst store tokens error := by
  induction tokens with
  | nil =>
    obtain ⟨token, member, -⟩ := refused
    cases member
  | cons first tokens inductionHypothesis =>
    by_cases here : ∃ error, store.Refuses first error
    · obtain ⟨error, refusedHere⟩ := here
      exact ⟨error, [], first, tokens, rfl, List.forall_mem_nil _, refusedHere⟩
    · obtain ⟨token, member, error, refusedToken⟩ := refused
      rcases List.mem_cons.mp member with rfl | later
      · exact absurd ⟨error, refusedToken⟩ here
      · obtain ⟨error, first⟩ := inductionHypothesis ⟨token, later, error, refusedToken⟩
        exact ⟨error, first.cons (not_exists.mp here)⟩

/-- The scan ends with the error of the first token that is refused. -/
theorem scan_eq_error_of_refusedFirst (refused : RefusedFirst store tokens error)
    (machine : Machine) : scan store machine tokens = .error error := by
  obtain ⟨before, token, after, rfl, accepted, refused⟩ := refused
  induction before generalizing machine with
  | nil => rw [List.nil_append, scan_cons, step_eq_error_iff.mpr refused, Except.bind]
  | cons first before inductionHypothesis =>
    obtain ⟨passes, others⟩ := List.forall_mem_cons.mp accepted
    rw [List.cons_append, scan_cons]
    cases went : step store machine first with
    | error met => exact absurd (step_eq_error_iff.mp went) (passes met)
    | ok next => exact inductionHypothesis next others

/-- A run reports zero and the error of the token that is refused first. -/
theorem run_of_refusedFirst (refused : RefusedFirst store tokens error)
    (repair : Option CellError) : run store repair tokens = .zero error := by
  rw [run, scan_eq_error_of_refusedFirst refused]

/-! ## The evaluation -/

/-- An operator is not refused, so the first token that is refused is left by the repair. -/
theorem RefusedFirst.dropLast (refused : RefusedFirst store tokens error) {operator : Operator}
    (whole : tokens = before ++ [.operator operator]) : RefusedFirst store before error := by
  obtain ⟨earlier, token, later, parts, accepted, refused⟩ := refused
  rcases List.eq_nil_or_concat later with rfl | ⟨later, last, rfl⟩
  · have same := List.append_inj_right' (whole.symm.trans parts) rfl
    cases same
    cases refused
  · rw [List.concat_eq_append, ← List.cons_append, ← List.append_assoc] at parts
    have same := List.append_inj_left' (whole.symm.trans parts) rfl
    exact ⟨earlier, token, later, same, accepted, refused⟩

/-- The leftmost refused token decides. A formula that holds an operand, does not end in a
division by a zero spelled out and holds a token that is refused reports zero and the error of
the first such token, whatever stands before it and behind it. -/
theorem evaluate_of_refused (store : Store) {formula : List Token}
    (operand : ∃ token ∈ formula, token.isOperand = true)
    (unspelled : ¬ SpellsZeroDivision formula)
    (refused : ∃ token ∈ formula, ∃ error, store.Refuses token error) :
    ∃ error, RefusedFirst store formula error ∧ evaluate store formula = ⟨0.0, some error⟩ := by
  obtain ⟨error, first⟩ := exists_refusedFirst refused
  have noZero : ¬ endsInZeroDivision formula = true :=
    fun ends => unspelled ((endsInZeroDivision_iff formula).mp ends)
  refine ⟨error, first, ?_⟩
  rw [evaluate_of_operand (List.any_eq_true.mpr operand), if_neg noZero]
  split
  · rename_i dangling
    obtain ⟨operator, whole⟩ := exists_concat_of_dangling dangling
    exact run_of_refusedFirst (first.dropLast whole) _
  · exact run_of_refusedFirst first _

/-- A division by zero, an operator without operands and an operator too many at the end are all
noticed, and the foreign error that a reference brings in is reported all the same. -/
theorem evaluate_of_refused_foreign :
    let store : Store := fun label =>
      if label = "B1" then some { formula := ["1"], outcome := ⟨7.0, some (.other "#N/A")⟩ }
      else none
    let formula : List Token :=
      [.number 1.0, .operator .divide, .openGroup, .number 0.0, .closeGroup, .operator .multiply,
        .operator .add, .reference "B1", .unknown "?", .reference "C1", .operator .subtract]
    (∃ token ∈ formula, token.isOperand = true) ∧ ¬ SpellsZeroDivision formula ∧
      (∃ token ∈ formula, ∃ error, store.Refuses token error) ∧
      hasDanglingOperator formula = true ∧
      RefusedFirst store formula (.other "#N/A") ∧
      evaluate store formula = ⟨0.0, some (.other "#N/A")⟩ := by
  intro store formula
  have operand : ∃ token ∈ formula, token.isOperand = true :=
    ⟨.number 1.0, List.mem_cons_self, rfl⟩
  have unspelled : ¬ SpellsZeroDivision formula := by
    rw [← endsInZeroDivision_iff]
    decide
  have refused : ∃ token ∈ formula, ∃ error, store.Refuses token error :=
    ⟨.unknown "?", by decide, .invalidFormula, .unknown "?"⟩
  have computed : evaluate store formula = ⟨0.0, some (.other "#N/A")⟩ := by decide +kernel
  obtain ⟨error, first, value⟩ := evaluate_of_refused store operand unspelled refused
  cases computed.symm.trans value
  exact ⟨operand, unspelled, refused, by decide, first, computed⟩

end Spreadsheet.Formula
