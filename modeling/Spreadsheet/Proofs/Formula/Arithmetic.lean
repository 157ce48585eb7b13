import Spreadsheet.Proofs.Formula.Computation

/-!
# Evaluation is ordinary arithmetic

On the tokens of an expression none of the checks before the scan fires but the one
for a spelled-out division by zero, and that one only where the value is missing
anyway. What the machine reports is therefore the value of the expression, and if
there is none, the error of the operator that is applied last: a failed division
leaves the stack of values short, and no later step makes up for it.
-/

namespace Spreadsheet

namespace Formula

/-! ## Checks before the scan -/

section Checks

variable {tokens : List Token}

/-- A formula that holds an operand is not empty. -/
theorem ne_nil_of_operand (operand : tokens.any Token.isOperand = true) : tokens ≠ [] := by
  rintro rfl
  cases operand

/-- A formula that holds an operand is not an empty group. -/
theorem not_emptyGroup_of_operand (operand : tokens.any Token.isOperand = true) :
    isEmptyGroup tokens = false := by
  unfold isEmptyGroup
  split
  · exact absurd operand (by decide)
  · rfl

/-- A formula that ends in one operator too many is another formula with that operator. -/
theorem exists_concat_of_dangling (dangling : hasDanglingOperator tokens = true) :
    ∃ operator, tokens = tokens.dropLast ++ [.operator operator] := by
  simp only [hasDanglingOperator, Bool.and_eq_true] at dangling
  obtain ⟨last, isLast, isOperator⟩ := (Option.any_eq_true _ _).mp dangling.1.2
  obtain ⟨before, rfl⟩ := List.getLast?_eq_some_iff.mp isLast
  cases last with
  | operator operator => exact ⟨operator, by rw [List.dropLast_concat]⟩
  | _ => cases isOperator

/-- A formula that holds an operand is run as it is unless it ends in a division by a zero
spelled out, or in one operator too many. Without that operator it is not checked for such a
division. -/
theorem evaluate_of_operand {store : Store} (operand : tokens.any Token.isOperand = true) :
    evaluate store tokens =
      if hasDanglingOperator tokens then run store (some .invalidFormula) tokens.dropLast
      else if endsInZeroDivision tokens then .failed .divideByZero
      else run store none tokens := by
  have filled := ne_nil_of_operand operand
  split
  · rename_i dangling
    obtain ⟨operator, whole⟩ := exists_concat_of_dangling dangling
    have operandBefore : tokens.dropLast.any Token.isOperand = true := by
      rw [whole, List.any_append] at operand
      simpa [Token.isOperand] using operand
    simp [evaluate, dangling, filled, operandBefore, not_emptyGroup_of_operand operandBefore]
  · rename_i closed
    simp [evaluate, closed, filled, operand, not_emptyGroup_of_operand operand]

end Checks

/-- The tokens hold an operand and do not end in an operator. -/
structure IsComplete (tokens : List Token) : Prop where
  holdsOperand : tokens.any Token.isOperand = true
  endsClosed : ∃ before last, tokens = before ++ [last] ∧ last.isOperator = false

namespace IsComplete

variable {first second tokens : List Token}

/-- An operand on its own is complete. -/
theorem singleton {token : Token} (operand : token.isOperand = true) : IsComplete [token] where
  holdsOperand := by rw [List.any_cons, operand, Bool.true_or]
  endsClosed := by
    refine ⟨[], token, rfl, ?_⟩
    cases token with
    | operator operator => cases operand
    | _ => rfl

/-- Two complete formulas with an operator between them are one. -/
theorem operation (operator : Operator) (left : IsComplete first) (right : IsComplete second) :
    IsComplete (first ++ .operator operator :: second) where
  holdsOperand := by rw [List.any_append, left.holdsOperand, Bool.true_or]
  endsClosed := by
    obtain ⟨before, last, rfl, closed⟩ := right.endsClosed
    exact ⟨first ++ .operator operator :: before, last, by simp, closed⟩

/-- A complete formula in parentheses is complete. -/
theorem group (inner : IsComplete tokens) :
    IsComplete (.openGroup :: tokens ++ [.closeGroup]) where
  holdsOperand := by
    rw [List.any_append, List.any_cons, inner.holdsOperand, Bool.or_true, Bool.true_or]
  endsClosed := ⟨.openGroup :: tokens, .closeGroup, rfl, rfl⟩

/-- Complete tokens are not empty. -/
theorem ne_nil (complete : IsComplete tokens) : tokens ≠ [] :=
  ne_nil_of_operand complete.holdsOperand

/-- Complete tokens do not end in one operator too many. -/
theorem not_dangling (complete : IsComplete tokens) : hasDanglingOperator tokens = false := by
  obtain ⟨before, last, rfl, closed⟩ := complete.endsClosed
  simp [hasDanglingOperator, closed]

/-- Complete tokens are scanned unless they end in a division by a zero spelled out. -/
theorem evaluate_eq (complete : IsComplete tokens) (store : Store) :
    evaluate store tokens =
      if endsInZeroDivision tokens then .failed .divideByZero else run store none tokens := by
  rw [evaluate_of_operand complete.holdsOperand, if_neg (by simp [complete.not_dangling])]

end IsComplete

/-- The last two tokens are a division and a number that is zero. -/
def SpellsZeroDivision (tokens : List Token) : Prop :=
  ∃ zero : Float, [.operator .divide, .number zero] <:+ tokens ∧ (zero == 0.0) = true

/-- The check before the scan finds exactly the divisions by zero that are spelled out. -/
theorem endsInZeroDivision_iff (tokens : List Token) :
    endsInZeroDivision tokens = true ↔ SpellsZeroDivision tokens := by
  obtain ⟨reversed, rfl⟩ : ∃ reversed, tokens = List.reverse reversed :=
    ⟨tokens.reverse, tokens.reverse_reverse.symm⟩
  unfold endsInZeroDivision
  rw [List.reverse_reverse]
  constructor
  · intro ends
    split at ends
    · rename_i zero before
      refine ⟨zero, ?_, ends⟩
      rw [List.reverse_cons, List.reverse_cons, List.append_assoc]
      exact List.suffix_append _ _
    · cases ends
  · rintro ⟨zero, ⟨before, whole⟩, isZero⟩
    have shape : reversed = .number zero :: .operator .divide :: before.reverse := by
      rw [← reversed.reverse_reverse, ← whole]
      simp
    rw [shape]
    exact isZero

/-- The last two tokens of an operation are those of its right operand, unless that is
a single token. -/
theorem suffix_operation {first second : List Token} {operator : Operator} {before last : Token}
    (filled : second ≠ []) (ends : [before, last] <:+ first ++ .operator operator :: second) :
    (before = .operator operator ∧ second = [last]) ∨ [before, last] <:+ second := by
  have whole : second <:+ first ++ .operator operator :: second :=
    (List.suffix_cons _ _).trans (List.suffix_append _ _)
  rcases second with _ | ⟨token, _ | ⟨next, rest⟩⟩
  · exact absurd rfl filled
  · have both : [before, last] = [.operator operator, token] :=
      (List.suffix_of_suffix_length_le ends (List.suffix_append _ _) (Nat.le_refl _)).eq_of_length rfl
    cases both
    exact .inl ⟨rfl, rfl⟩
  · exact .inr (List.suffix_of_suffix_length_le ends whole (by simp))

end Formula

open Formula

mutual

/-- The tokens of an expression are complete. -/
theorem Expression.isComplete : (expression : Expression) → IsComplete expression.tokens
  | .term term => term.isComplete
  | .add left right => left.isComplete.operation .add right.isComplete
  | .subtract left right => left.isComplete.operation .subtract right.isComplete

/-- The tokens of a term are complete. -/
theorem Term.isComplete : (term : Term) → IsComplete term.tokens
  | .factor factor => factor.isComplete
  | .multiply left right => left.isComplete.operation .multiply right.isComplete
  | .divide left right => left.isComplete.operation .divide right.isComplete

/-- The tokens of a factor are complete. -/
theorem Factor.isComplete : (factor : Factor) → IsComplete factor.tokens
  | .number _ => .singleton rfl
  | .reference _ => .singleton rfl
  | .group inner => inner.isComplete.group

end

/-- A factor never ends in an operator and a number. -/
theorem Factor.not_suffix (factor : Factor) (operator : Operator) (number : Float) :
    ¬ [.operator operator, .number number] <:+ factor.tokens := by
  intro ends
  cases factor with
  | number value => exact absurd ends.length_le (by simp [Factor.tokens])
  | reference label => exact absurd ends.length_le (by simp [Factor.tokens])
  | group inner =>
    obtain ⟨before, whole⟩ := ends
    have last := congrArg List.getLast? whole
    rw [Factor.tokens, List.getLast?_concat, List.append_cons, List.getLast?_concat] at last
    cases last

/-- A factor whose only token is a number is that number. -/
theorem Factor.eq_number {factor : Factor} {number : Float}
    (single : factor.tokens = [.number number]) : factor = .number number := by
  cases factor with
  | number value =>
    cases single
    rfl
  | reference label => cases single
  | group inner => cases single

/-- A term that ends in a division by a spelled-out zero has a division by zero. -/
theorem Term.hasZeroDivision_of_suffix {term : Term} {zero : Float} (read : String → Float)
    (isZero : (zero == 0.0) = true) (ends : [.operator .divide, .number zero] <:+ term.tokens) :
    term.hasZeroDivision read = true := by
  cases term with
  | factor factor => exact absurd ends (factor.not_suffix _ _)
  | multiply left right =>
    rcases suffix_operation right.isComplete.ne_nil ends with ⟨same, -⟩ | inside
    · cases same
    · exact absurd inside (right.not_suffix _ _)
  | divide left right =>
    rcases suffix_operation right.isComplete.ne_nil ends with ⟨-, single⟩ | inside
    · cases Factor.eq_number single
      rw [Term.hasZeroDivision, Factor.value, isZero, Bool.or_true]
    · exact absurd inside (right.not_suffix _ _)

/-- An expression that ends in a division by a spelled-out zero has a division by zero. -/
theorem Expression.hasZeroDivision_of_suffix {expression : Expression} {zero : Float}
    (read : String → Float) (isZero : (zero == 0.0) = true)
    (ends : [.operator .divide, .number zero] <:+ expression.tokens) :
    expression.hasZeroDivision read = true := by
  have inRight {left : Expression} {right : Term} {operator : Operator}
      (other : operator ≠ .divide)
      (within : [.operator .divide, .number zero] <:+
        left.tokens ++ .operator operator :: right.tokens) :
      (left.hasZeroDivision read || right.hasZeroDivision read) = true := by
    rcases suffix_operation right.isComplete.ne_nil within with ⟨same, -⟩ | inside
    · cases same
      exact absurd rfl other
    · rw [Term.hasZeroDivision_of_suffix read isZero inside, Bool.or_true]
  cases expression with
  | term term => exact Term.hasZeroDivision_of_suffix read isZero ends
  | add left right => exact inRight (by decide) ends
  | subtract left right => exact inRight (by decide) ends

/-- Where nothing is divided by zero, no division by zero is spelled out at the end. -/
theorem Expression.endsInZeroDivision_eq_false {expression : Expression} {read : String → Float}
    (undivided : expression.hasZeroDivision read = false) :
    endsInZeroDivision expression.tokens = false := by
  refine Bool.eq_false_iff.mpr fun spelled => ?_
  obtain ⟨zero, ends, isZero⟩ := (endsInZeroDivision_iff _).mp spelled
  rw [expression.hasZeroDivision_of_suffix read isZero ends] at undivided
  cases undivided

/-- The outcome of an expression is what the machine reports after the computation,
unless the expression ends in a division by a spelled-out zero. -/
theorem Expression.evaluate_tokens {store : Store} {read : String → Float}
    (expression : Expression) (resolves : Resolves store read expression.tokens) :
    evaluate store expression.tokens =
      if endsInZeroDivision expression.tokens then .failed .divideByZero
      else report expression.tokens.head? ((expression.computation read).perform (.start none)) := by
  obtain ⟨after, scanned, defers⟩ :=
    expression.denotes resolves (.start none) fun _ member => nomatch member
  have drained : after.drain = (expression.computation read).perform (.start none) := defers.drain
  rw [expression.isComplete.evaluate_eq, run, scanned]
  simp only [drained]

/-! ## Computations with a result -/

namespace Computation

/-- Performing a computation that has a result puts the result on the stack. -/
theorem perform_of_result {computation : Computation} {value : Float}
    (result : computation.result? = some value) (machine : Machine) :
    computation.perform machine = machine.pushValue value := by
  induction computation generalizing value machine with
  | value number =>
    cases result
    rfl
  | operation operator left right leftPerforms rightPerforms =>
    obtain ⟨leftValue, leftResult, rest⟩ := Option.bind_eq_some_iff.mp result
    obtain ⟨rightValue, rightResult, applied⟩ := Option.bind_eq_some_iff.mp rest
    rw [perform, leftPerforms leftResult, rightPerforms rightResult, Machine.apply_operator,
      applied]

/-- An operator on two results puts its own result in their place, if it has one. -/
theorem perform_of_results {operator : Operator} {left right : Computation}
    {leftValue rightValue : Float} (leftResult : left.result? = some leftValue)
    (rightResult : right.result? = some rightValue) (machine : Machine) :
    (operation operator left right).perform machine =
      match operator.result? leftValue rightValue with
      | some result => machine.pushValue result
      | none => { machine with error := some .divideByZero } := by
  rw [perform, perform_of_result leftResult, perform_of_result rightResult]
  exact Machine.apply_operator machine operator leftValue rightValue

/-! ## Computations without a result -/

/-- Performing a computation adds at most one value to the stack. -/
theorem length_perform_le (computation : Computation) (machine : Machine) :
    (computation.perform machine).values.length ≤ machine.values.length + 1 := by
  induction computation generalizing machine with
  | value number => exact Nat.le_refl _
  | operation operator left right leftLe rightLe =>
    have leftStep := leftLe machine
    have rightStep := rightLe (left.perform machine)
    have applied := Machine.length_apply_le (right.perform (left.perform machine))
      (.operator operator)
    rw [perform]
    omega

/-- A computation without a result leaves the stack one short: whatever the operators
after a failed division combine, none of them makes up for the value that is missing. -/
theorem length_perform_le_of_none {computation : Computation}
    (missing : computation.result? = none) (machine : Machine) :
    (computation.perform machine).values.length ≤ machine.values.length := by
  induction computation generalizing machine with
  | value number => cases missing
  | operation operator left right leftShort rightShort =>
    have applied : ((operation operator left right).perform machine).values.length ≤
        (right.perform (left.perform machine)).values.length - 1 :=
      Machine.length_apply_le _ (.operator operator)
    cases leftResult : left.result? with
    | none =>
      have leftStep := leftShort leftResult machine
      have rightStep := length_perform_le right (left.perform machine)
      omega
    | some leftValue =>
      have leftStep := length_perform_le left machine
      cases rightResult : right.result? with
      | none =>
        have rightStep := rightShort rightResult (left.perform machine)
        omega
      | some rightValue =>
        rw [result?, leftResult, rightResult] at missing
        have failed : operator.result? leftValue rightValue = none := missing
        simp [perform_of_results leftResult rightResult, failed]

/-- Whether the outermost operator is a division of two results. -/
def dividesResults : Computation → Bool
  | .operation .divide left right => left.result?.isSome && right.result?.isSome
  | _ => false

section Operation

variable {operator : Operator} {left right : Computation}

/-- An operator that finds fewer than two values leaves nothing behind. -/
theorem perform_operation_of_short {machine : Machine}
    (short : (right.perform (left.perform machine)).values.length ≤ 1) :
    (operation operator left right).perform machine =
      ⟨[], machine.pending, some .invalidOperator⟩ := by
  rw [perform, Machine.apply_of_length_le_one short, perform_pending, perform_pending]

/-- Without a result on its left, a division does not divide results. -/
theorem dividesResults_of_left (missing : left.result? = none) :
    (operation operator left right).dividesResults = false := by
  cases operator <;> simp [dividesResults, missing]

/-- Without a result on its right, a division does not divide results. -/
theorem dividesResults_of_right (missing : right.result? = none) :
    (operation operator left right).dividesResults = false := by
  cases operator <;> simp [dividesResults, missing]

/-- On two results only a division can fail. -/
theorem dividesResults_of_results {leftValue rightValue : Float}
    (leftResult : left.result? = some leftValue) (rightResult : right.result? = some rightValue)
    (failed : operator.result? leftValue rightValue = none) :
    (operation operator left right).dividesResults = true := by
  cases operator with
  | divide => simp [dividesResults, leftResult, rightResult]
  | _ => cases failed

end Operation

/-- On an empty stack a computation without a result leaves nothing behind but the
error of its outermost operator, which is applied last. -/
theorem perform_of_none {computation : Computation} (missing : computation.result? = none)
    (pending : List Pending) (error : Option CellError) :
    computation.perform ⟨[], pending, error⟩ =
      ⟨[], pending,
        some (if computation.dividesResults then .divideByZero else .invalidOperator)⟩ := by
  cases computation with
  | value number => cases missing
  | operation operator left right =>
    cases leftResult : left.result? with
    | none =>
      have leftStep := length_perform_le_of_none leftResult ⟨[], pending, error⟩
      have rightStep := length_perform_le right (left.perform ⟨[], pending, error⟩)
      rw [perform_operation_of_short (Nat.le_trans rightStep (Nat.succ_le_succ leftStep)),
        dividesResults_of_left leftResult]
      rfl
    | some leftValue =>
      cases rightResult : right.result? with
      | none =>
        have leftStep := length_perform_le left ⟨[], pending, error⟩
        have rightStep := length_perform_le_of_none rightResult
          (left.perform ⟨[], pending, error⟩)
        rw [perform_operation_of_short (Nat.le_trans rightStep leftStep),
          dividesResults_of_right rightResult]
        rfl
      | some rightValue =>
        rw [result?, leftResult, rightResult] at missing
        have failed : operator.result? leftValue rightValue = none := missing
        rw [perform_of_results leftResult rightResult, failed,
          dividesResults_of_results leftResult rightResult failed]
        rfl

end Computation

mutual

/-- In an expression that has a division by zero, the outermost operator is the only one exactly if
it is a division of two results. -/
theorem Expression.dividesResults_computation (read : String → Float) :
    (expression : Expression) → expression.hasZeroDivision read = true →
      (expression.computation read).dividesResults = expression.isZeroDivision read
  | .term term, divided => term.dividesResults_computation read divided
  | .add _ _, _ => rfl
  | .subtract _ _, _ => rfl

/-- In a term that has a division by zero, the outermost operator is the only one exactly if it is
a division of two results. -/
theorem Term.dividesResults_computation (read : String → Float) :
    (term : Term) → term.hasZeroDivision read = true →
      (term.computation read).dividesResults = term.isZeroDivision read
  | .factor factor, divided => factor.dividesResults_computation read divided
  | .multiply _ _, _ => rfl
  | .divide left right, divided => by
    rw [Term.hasZeroDivision] at divided
    rw [Term.computation, Computation.dividesResults, left.result?_computation,
      right.result?_computation, Term.isZeroDivision]
    cases leftDivided : left.hasZeroDivision read with
    | true => rfl
    | false =>
      cases rightDivided : right.hasZeroDivision read with
      | true => rfl
      | false =>
        rw [leftDivided, rightDivided] at divided
        exact divided.symm

/-- In a factor that has a division by zero, the outermost operator is the only one exactly if it
is a division of two results. -/
theorem Factor.dividesResults_computation (read : String → Float) :
    (factor : Factor) → factor.hasZeroDivision read = true →
      (factor.computation read).dividesResults = factor.isZeroDivision read
  | .number _, _ => rfl
  | .reference _, _ => rfl
  | .group inner, divided => inner.dividesResults_computation read divided

end

/-! ## Main results -/

/-- An expression in which nothing is divided by zero evaluates to its value. If that is not a
number, the formula is reported as invalid, with the number that it starts with; where it starts
with none, what is reported is not a number either. -/
theorem Expression.evaluate_tokens_of_value {store : Store} {read : String → Float}
    (expression : Expression) (resolves : Resolves store read expression.tokens)
    (undivided : expression.hasZeroDivision read = false) :
    let value := expression.value read
    let outcome := evaluate store expression.tokens
    (value.isNaN = false → outcome = ⟨value, none⟩) ∧
    (value.isNaN = true → outcome.error = some .invalidFormula ∧
      (∀ number, expression.tokens.head? = some (.number number) → outcome.value = number) ∧
      ((∀ number, expression.tokens.head? ≠ some (.number number)) →
        outcome.value.isNaN = true)) := by
  have result : (expression.computation read).result? = some (expression.value read) := by
    rw [expression.result?_computation, undivided]
    rfl
  have reported : evaluate store expression.tokens =
      report expression.tokens.head? ((Machine.start none).pushValue (expression.value read)) := by
    rw [expression.evaluate_tokens resolves, endsInZeroDivision_eq_false undivided,
      Computation.perform_of_result result]
    rfl
  intro value outcome
  constructor
  · intro isNumber
    exact reported.trans (if_neg (ne_true_of_eq_false isNumber))
  · intro isNaN
    have replaced : outcome = ⟨(expression.tokens.head?.bind Token.number?).getD Decimal.undefined,
        some .invalidFormula⟩ :=
      reported.trans (if_pos isNaN)
    rw [replaced]
    refine ⟨rfl, fun number starts => ?_, fun startsOther => ?_⟩
    · rw [starts]
      rfl
    · have undefinedIsNaN : Decimal.undefined.isNaN = true := by decide
      cases head : expression.tokens.head? with
      | none => exact undefinedIsNaN
      | some token =>
        cases token with
        | number number => exact absurd head (startsOther number)
        | _ => exact undefinedIsNaN

/-- The sum of 1 and a cell that holds 2, in parentheses, times 3. Two differences with an infinite
cell are not numbers: one of them starts with a number, the other with the cell. -/
theorem Expression.evaluate_tokens_grouped_sum :
    let store : Store := fun label =>
      if label = "A1" then some ⟨["2"], ⟨2.0, none⟩⟩ else some ⟨["1e999"], ⟨1.0 / 0.0, none⟩⟩
    let read : String → Float := fun label => if label = "A1" then 2.0 else 1.0 / 0.0
    let product : Expression :=
      .term (.multiply (.factor (.group (.add (.term (.factor (.number 1.0)))
        (.factor (.reference "A1"))))) (.number 3.0))
    let started : Expression :=
      .subtract (.term (.multiply (.factor (.number 4.0)) (.reference "B1")))
        (.factor (.reference "B1"))
    let difference : Expression :=
      .subtract (.term (.factor (.reference "B1"))) (.factor (.reference "B1"))
    (Resolves store read product.tokens ∧ product.hasZeroDivision read = false ∧
      product.value read = 9.0 ∧ evaluate store product.tokens = ⟨9.0, none⟩) ∧
    (Resolves store read started.tokens ∧ started.hasZeroDivision read = false ∧
      (started.value read).isNaN = true ∧
      evaluate store started.tokens = ⟨4.0, some .invalidFormula⟩) ∧
    Resolves store read difference.tokens ∧ difference.hasZeroDivision read = false ∧
    (difference.value read).isNaN = true ∧
    (evaluate store difference.tokens).error = some .invalidFormula ∧
    (evaluate store difference.tokens).value.isNaN = true := by
  intro store read product started difference
  have resolves (tokens : List Token) : Resolves store read tokens := by
    intro label _
    by_cases first : label = "A1"
    · simp [store, read, Store.resolve, first]
    · simp [store, read, Store.resolve, first]
  have nine : product.value read = 9.0 := by decide
  refine ⟨⟨resolves _, by decide, nine, ?_⟩, ⟨resolves _, by decide, by decide, ?_⟩,
    resolves _, by decide, by decide, ?_⟩
  · have clean := (product.evaluate_tokens_of_value (resolves _) (by decide)).1 (by decide)
    rwa [nine] at clean
  · obtain ⟨-, replaced⟩ := started.evaluate_tokens_of_value (resolves _) (by decide)
    obtain ⟨error, value, -⟩ := replaced (by decide)
    rw [← value 4.0 rfl, ← error]
  · obtain ⟨-, replaced⟩ := difference.evaluate_tokens_of_value (resolves _) (by decide)
    obtain ⟨error, -, value⟩ := replaced (by decide)
    exact ⟨error, value fun number starts => by cases starts⟩

/-- An expression in which something is divided by zero is always reported. A division
by a zero spelled out at the end gives infinity; every other one gives zero, as a
division by zero if the outermost operator is the only division that fails and as an
operator without operands otherwise. -/
theorem Expression.evaluate_tokens_of_zeroDivision {store : Store} {read : String → Float}
    (expression : Expression) (resolves : Resolves store read expression.tokens)
    (divided : expression.hasZeroDivision read = true) :
    let outcome := evaluate store expression.tokens
    (SpellsZeroDivision expression.tokens → outcome = ⟨1.0 / 0.0, some .divideByZero⟩) ∧
    (¬ SpellsZeroDivision expression.tokens →
      outcome = ⟨0.0,
        some (if expression.isZeroDivision read then .divideByZero else .invalidOperator)⟩) ∧
    outcome.error ≠ none ∧
    (outcome.value.isFinite = true → outcome.value = 0.0) := by
  have missing : (expression.computation read).result? = none := by
    rw [expression.result?_computation, divided]
    rfl
  have performed := Computation.perform_of_none missing [] none
  rw [expression.dividesResults_computation read divided] at performed
  have spelled : endsInZeroDivision expression.tokens = true →
      evaluate store expression.tokens = ⟨1.0 / 0.0, some .divideByZero⟩ := by
    intro ends
    rw [expression.evaluate_tokens resolves, ends]
    rfl
  have computed : ¬ endsInZeroDivision expression.tokens = true →
      evaluate store expression.tokens = ⟨0.0,
        some (if expression.isZeroDivision read then .divideByZero else .invalidOperator)⟩ := by
    intro ends
    rw [expression.evaluate_tokens resolves, if_neg ends, Machine.start, performed]
    rfl
  intro outcome
  rw [← endsInZeroDivision_iff]
  refine ⟨spelled, computed, ?_⟩
  by_cases ends : endsInZeroDivision expression.tokens = true
  · rw [show outcome = _ from spelled ends]
    exact ⟨Option.some_ne_none _, fun finite => absurd finite (by decide)⟩
  · rw [show outcome = _ from computed ends]
    exact ⟨Option.some_ne_none _, fun _ => rfl⟩

/-- One plus the quotient of 6 and a difference of zero: the sum is applied last. Two quotients
over that difference, in parentheses: the outer division is the only one by zero. -/
theorem Expression.evaluate_tokens_computed_zero :
    let store : Store := fun _ => some ⟨["3"], ⟨3.0, none⟩⟩
    let read : String → Float := fun _ => 3.0
    let zero : Factor :=
      .group (.subtract (.term (.factor (.number 3.0))) (.factor (.reference "A1")))
    let sum : Expression :=
      .add (.term (.factor (.number 1.0))) (.divide (.factor (.number 6.0)) zero)
    let quotient : Expression :=
      .term (.factor (.group (.term (.divide (.divide (.factor (.number 8.0))
        (.group (.add (.term (.factor (.number 2.0))) (.factor (.number 2.0))))) zero))))
    let spelled : Expression := .term (.divide (.divide (.factor (.number 1.0)) zero) (.number 0.0))
    (Resolves store read sum.tokens ∧ sum.hasZeroDivision read = true ∧
      ¬ SpellsZeroDivision sum.tokens ∧
      evaluate store sum.tokens = ⟨0.0, some .invalidOperator⟩) ∧
    (Resolves store read quotient.tokens ∧ quotient.hasZeroDivision read = true ∧
      ¬ SpellsZeroDivision quotient.tokens ∧
      evaluate store quotient.tokens = ⟨0.0, some .divideByZero⟩) ∧
    Resolves store read spelled.tokens ∧ spelled.hasZeroDivision read = true ∧
    SpellsZeroDivision spelled.tokens ∧
    evaluate store spelled.tokens = ⟨1.0 / 0.0, some .divideByZero⟩ := by
  intro store read zero sum quotient spelled
  have resolves (tokens : List Token) : Resolves store read tokens := fun _ _ => rfl
  have sumComputed : ¬ SpellsZeroDivision sum.tokens := by
    rw [← endsInZeroDivision_iff]
    decide
  have quotientComputed : ¬ SpellsZeroDivision quotient.tokens := by
    rw [← endsInZeroDivision_iff]
    decide
  have isSpelled : SpellsZeroDivision spelled.tokens := by
    rw [← endsInZeroDivision_iff]
    decide
  refine ⟨⟨resolves _, by decide, sumComputed, ?_⟩, ⟨resolves _, by decide, quotientComputed, ?_⟩,
    resolves _, by decide, isSpelled, ?_⟩
  · obtain ⟨-, computed, -⟩ := sum.evaluate_tokens_of_zeroDivision (resolves _) (by decide)
    exact computed sumComputed
  · obtain ⟨-, computed, -⟩ := quotient.evaluate_tokens_of_zeroDivision (resolves _) (by decide)
    have outermost : quotient.isZeroDivision read = true := by decide
    exact (computed quotientComputed).trans (by rw [if_pos outermost])
  · obtain ⟨infinite, -⟩ := spelled.evaluate_tokens_of_zeroDivision (resolves _) (by decide)
    exact infinite isSpelled

end Spreadsheet
