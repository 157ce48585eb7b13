import Spreadsheet.Formula.Evaluation
import Spreadsheet.Formula.Expression
import Spreadsheet.Proofs.Formula.Machine

/-!
# What the tokens of an expression make the machine do

A `Computation` is an expression without its parentheses and labels. Performing one
works from the leaves up on top of whatever lies on the two stacks.
`Formula.Denotes` relates tokens to computations: scanning the tokens performs the
computation, save for operators that stay pending and bind tightly enough to be
applied before anything below them. `Expression.denotes` is the result for the whole
grammar, with or without errors on the way.
-/

namespace Spreadsheet

/-- What an expression asks for once its references are read. -/
inductive Computation where
  | value (number : Float)
  | operation (operator : Operator) (left right : Computation)

namespace Computation

/-- The result of the computation; there is none if something is divided by zero. -/
def result? : Computation → Option Float
  | .value number => some number
  | .operation operator left right => do operator.result? (← left.result?) (← right.result?)

/-- The machine after the operands and then the operator have been dealt with. -/
def perform : Computation → Machine → Machine
  | .value number, machine => machine.pushValue number
  | .operation operator left right, machine =>
    (right.perform (left.perform machine)).apply (.operator operator)

/-- A computation does not look at what is pending. -/
theorem perform_withPending (computation : Computation) (machine : Machine)
    (pending : List Pending) :
    computation.perform (machine.withPending pending) =
      (computation.perform machine).withPending pending := by
  induction computation generalizing machine with
  | value number => exact Machine.pushValue_withPending machine pending number
  | operation operator left right leftPerforms rightPerforms =>
    rw [perform, perform, leftPerforms, rightPerforms, Machine.apply_withPending]

/-- A computation leaves what is pending as it was. -/
@[simp] theorem perform_pending (computation : Computation) (machine : Machine) :
    (computation.perform machine).pending = machine.pending := by
  induction computation generalizing machine with
  | value number => rfl
  | operation operator left right leftPerforms rightPerforms =>
    rw [perform, Machine.apply_pending, rightPerforms, leftPerforms]

end Computation

mutual

/-- The computation of an expression; `read` gives the values of the references. -/
def Expression.computation (read : String → Float) : Expression → Computation
  | .term term => term.computation read
  | .add left right => .operation .add (left.computation read) (right.computation read)
  | .subtract left right => .operation .subtract (left.computation read) (right.computation read)

/-- The computation of a term. -/
def Term.computation (read : String → Float) : Term → Computation
  | .factor factor => factor.computation read
  | .multiply left right => .operation .multiply (left.computation read) (right.computation read)
  | .divide left right => .operation .divide (left.computation read) (right.computation read)

/-- The computation of a factor. -/
def Factor.computation (read : String → Float) : Factor → Computation
  | .number value => .value value
  | .reference label => .value (read label)
  | .group inner => inner.computation read

end

namespace Computation

variable {operator : Operator} {left right : Computation} {leftFails rightFails : Bool}
  {leftValue rightValue : Float}

/-- An operation fails if an operand does, and otherwise comes to what the operator makes of the
two values. -/
theorem result?_operation (leftResult : left.result? = if leftFails then none else some leftValue)
    (rightResult : right.result? = if rightFails then none else some rightValue) :
    (operation operator left right).result? =
      if leftFails || rightFails then none else operator.result? leftValue rightValue := by
  rw [result?, leftResult, rightResult]
  cases leftFails with
  | true => rfl
  | false => cases rightFails <;> rfl

end Computation

mutual

/-- The computation of an expression fails exactly if something is divided by zero, and comes to
the value of the expression otherwise. -/
theorem Expression.result?_computation (read : String → Float) :
    (expression : Expression) → (expression.computation read).result? =
      if expression.hasZeroDivision read then none else some (expression.value read)
  | .term term => term.result?_computation read
  | .add left right =>
    Computation.result?_operation (left.result?_computation read) (right.result?_computation read)
  | .subtract left right =>
    Computation.result?_operation (left.result?_computation read) (right.result?_computation read)

/-- The computation of a term fails exactly if something is divided by zero. -/
theorem Term.result?_computation (read : String → Float) :
    (term : Term) → (term.computation read).result? =
      if term.hasZeroDivision read then none else some (term.value read)
  | .factor factor => factor.result?_computation read
  | .multiply left right =>
    Computation.result?_operation (left.result?_computation read) (right.result?_computation read)
  | .divide left right => by
    rw [Term.computation, Computation.result?_operation (left.result?_computation read)
      (right.result?_computation read), Term.hasZeroDivision, Term.value, Operator.result?]
    -- The divisor is looked at only where both operands have a value.
    cases left.hasZeroDivision read || right.hasZeroDivision read <;> rfl

/-- The computation of a factor fails exactly if something is divided by zero. -/
theorem Factor.result?_computation (read : String → Float) :
    (factor : Factor) → (factor.computation read).result? =
      if factor.hasZeroDivision read then none else some (factor.value read)
  | .number _ => rfl
  | .reference _ => rfl
  | .group inner => inner.result?_computation read

end

/-! ## Operators that stay pending -/

/-- Whatever is on top binds less tightly than the given level. -/
def Pending.BindsBelow (level : Nat) (pending : List Pending) : Prop :=
  ∀ entry ∈ pending.head?, entry.precedence < level

/-- The machine lacks `result` only by entries above `pending`, all of which bind at
least as tightly as the level. -/
def Machine.Defers (level : Nat) (pending : List Pending) (result after : Machine) : Prop :=
  ∃ deferred, after.pending = deferred ++ pending ∧
    (∀ entry ∈ deferred, level ≤ entry.precedence) ∧
    deferred.foldl Machine.apply (after.withPending pending) = result

namespace Machine.Defers

variable {level : Nat} {pending : List Pending} {result after : Machine}

/-- Nothing is pending once the work is done. -/
theorem of_done (done : after.pending = pending) : Defers level pending after after := by
  refine ⟨[], done, ?_, ?_⟩
  · intro entry member
    cases member
  · rw [List.foldl_nil, ← done, Machine.withPending_self]

/-- The finished machine has nothing pending above the boundary. -/
theorem result_pending (defers : Defers level pending result after) :
    result.pending = pending := by
  obtain ⟨deferred, -, -, applied⟩ := defers
  rw [← applied, foldl_apply_withPending, withPending_pending]

/-- What binds at least as tightly as a level does so for every lower one. -/
theorem weaken {lower : Nat} (below : lower ≤ level) (defers : Defers level pending result after) :
    Defers lower pending result after := by
  obtain ⟨deferred, stacked, tight, applied⟩ := defers
  exact ⟨deferred, stacked, fun entry member => Nat.le_trans below (tight entry member), applied⟩

/-- An operator that arrives finishes what binds at least as tightly. -/
theorem pushOperator {operator : Operator}
    (defers : Defers operator.precedence pending result after)
    (bindsBelow : Pending.BindsBelow operator.precedence pending) :
    after.pushOperator operator = result.withPending (.operator operator :: pending) := by
  have ⟨deferred, stacked, tight, applied⟩ := defers
  have taken : ∀ entry ∈ deferred, Pending.precedes operator entry = true := by
    intro entry member
    exact decide_eq_true (tight entry member)
  have kept : ∀ entry ∈ pending.head?, Pending.precedes operator entry = false := by
    intro entry top
    exact decide_eq_false (Nat.not_le.mpr (bindsBelow entry top))
  have finished : after.applyWhile (Pending.precedes operator) = result :=
    (applyWhile_append stacked taken kept).trans applied
  calc after.pushOperator operator
      = (after.applyWhile (Pending.precedes operator)).withPending
          (.operator operator :: (after.applyWhile (Pending.precedes operator)).pending) := rfl
    _ = result.withPending (.operator operator :: pending) := by
        rw [finished, defers.result_pending]

/-- A closing parenthesis finishes everything since the group was opened. -/
theorem closeGroup (positive : 0 < level) (defers : Defers level (.group :: pending) result after) :
    after.closeGroup = result.withPending pending := by
  have ⟨deferred, stacked, tight, applied⟩ := defers
  have taken : ∀ entry ∈ deferred, entry.isInGroup = true := by
    intro entry member
    have binds := tight entry member
    cases entry with
    | operator operator => rfl
    | group => exact absurd binds (Nat.not_le.mpr positive)
  have kept : ∀ entry ∈ (Pending.group :: pending).head?, entry.isInGroup = false := by
    rintro entry ⟨⟩
    rfl
  have finished : after.applyWhile Pending.isInGroup = result :=
    (applyWhile_append stacked taken kept).trans applied
  calc after.closeGroup
      = (after.applyWhile Pending.isInGroup).withPending
          ((after.applyWhile Pending.isInGroup).pending.drop 1) := rfl
    _ = result.withPending pending := by
        rw [finished, defers.result_pending, List.drop_one, List.tail_cons]

/-- Draining finishes the rest. -/
theorem drain (defers : Defers level [] result after) : after.drain = result := by
  obtain ⟨deferred, stacked, -, applied⟩ := defers
  rw [drain_eq, stacked, List.append_nil, applied]

/-- What is deferred above an operator is deferred together with the operator. -/
theorem operator {operator : Operator} (looser : operator.precedence ≤ level)
    (defers : Defers level (.operator operator :: pending) result after) :
    Defers operator.precedence pending ((result.withPending pending).apply (.operator operator))
      after := by
  obtain ⟨deferred, stacked, tight, applied⟩ := defers
  refine ⟨deferred ++ [.operator operator], ?_, ?_, ?_⟩
  · rw [stacked, List.append_assoc, List.singleton_append]
  · intro entry member
    rcases List.mem_append.mp member with above | last
    · exact Nat.le_trans looser (tight entry above)
    · cases List.mem_singleton.mp last
      exact Nat.le_refl _
  · rw [List.foldl_append, ← applied, ← foldl_apply_withPending]
    rfl

end Machine.Defers

/-! ## Tokens and computations -/

namespace Formula

/-- Wherever the top of the operator stack binds less tightly than the level, scanning
the tokens performs the computation up to operators of that level. -/
def Denotes (store : Store) (level : Nat) (tokens : List Token) (computation : Computation) :
    Prop :=
  ∀ machine : Machine, Pending.BindsBelow level machine.pending →
    ∃ after, scan store machine tokens = .ok after ∧
      Machine.Defers level machine.pending (computation.perform machine) after

namespace Denotes

variable {store : Store} {level : Nat} {tokens : List Token} {computation : Computation}

/-- Tokens that denote a computation at one level do so at every lower one. -/
theorem weaken {lower : Nat} (below : lower ≤ level)
    (denotes : Denotes store level tokens computation) :
    Denotes store lower tokens computation := by
  intro machine bindsBelow
  obtain ⟨after, scanned, defers⟩ := denotes machine fun entry top =>
    Nat.lt_of_lt_of_le (bindsBelow entry top) below
  exact ⟨after, scanned, defers.weaken below⟩

/-- A number denotes itself. -/
theorem number (value : Float) : Denotes store level [.number value] (.value value) :=
  fun machine _ => ⟨machine.pushValue value, rfl, .of_done rfl⟩

/-- A reference that resolves denotes the value that it reads. -/
theorem reference {label : String} {value : Float} (resolved : store.resolve label = .ok value) :
    Denotes store level [.reference label] (.value value) := by
  intro machine _
  refine ⟨machine.pushValue value, ?_, .of_done rfl⟩
  rw [scan, List.foldlM_cons, step, resolved]
  rfl

/-- Tokens in parentheses denote, at every level, what they denote at the lowest. -/
theorem group (inner : Denotes store 1 tokens computation) :
    Denotes store level (.openGroup :: tokens ++ [.closeGroup]) computation := by
  intro machine _
  have opened : Pending.BindsBelow 1 machine.openGroup.pending := by
    rintro entry ⟨⟩
    exact Nat.zero_lt_one
  obtain ⟨after, scanned, defers⟩ := inner machine.openGroup opened
  have closed : after.closeGroup = computation.perform machine := by
    rw [defers.closeGroup Nat.zero_lt_one, ← Computation.perform_withPending]
    rfl
  refine ⟨after.closeGroup, ?_, ?_⟩
  · rw [scan] at scanned
    rw [scan, List.cons_append, List.foldlM_cons, step]
    simp only [bind, Except.bind, List.foldlM_append]
    rw [scanned]
    rfl
  · rw [closed]
    exact .of_done (computation.perform_pending machine)

/-- An operator joins what binds as tightly on its left with what binds more tightly on
its right. -/
theorem operation {left right : List Token} {first second : Computation} (operator : Operator)
    (leftDenotes : Denotes store operator.precedence left first)
    (rightDenotes : Denotes store (operator.precedence + 1) right second) :
    Denotes store operator.precedence (left ++ .operator operator :: right)
      (.operation operator first second) := by
  intro machine bindsBelow
  obtain ⟨middle, leftScanned, leftDefers⟩ := leftDenotes machine bindsBelow
  have pushed := leftDefers.pushOperator bindsBelow
  have onTop : Pending.BindsBelow (operator.precedence + 1)
      ((first.perform machine).withPending (.operator operator :: machine.pending)).pending := by
    rintro entry ⟨⟩
    exact Nat.lt_succ_self _
  obtain ⟨after, rightScanned, rightDefers⟩ := rightDenotes _ onTop
  refine ⟨after, ?_, ?_⟩
  · rw [scan] at leftScanned rightScanned
    rw [scan, List.foldlM_append, leftScanned]
    simp only [bind, Except.bind, List.foldlM_cons, step]
    rw [pushed, rightScanned]
  · have finished := rightDefers.operator (Nat.le_succ _)
    rw [Computation.perform_withPending, Machine.withPending_withPending] at finished
    have restored : (second.perform (first.perform machine)).withPending machine.pending =
        second.perform (first.perform machine) := by
      rw [← Machine.withPending_self (second.perform (first.perform machine))]
      simp
    rwa [restored] at finished

end Denotes

end Formula

namespace Formula

/-- An operator adds no references to those of its operands. -/
theorem references_operation (left right : List Token) (operator : Operator) :
    references (left ++ .operator operator :: right) = references left ++ references right := by
  rw [references, List.filterMap_append, List.filterMap_cons_none rfl]
  rfl

/-- Parentheses add no references to those inside. -/
theorem references_group (inner : List Token) :
    references (.openGroup :: inner ++ [.closeGroup]) = references inner := by
  rw [references, List.cons_append, List.filterMap_cons_none rfl, List.filterMap_append]
  exact List.append_nil _

/-- Every reference in the tokens resolves to the value that `read` gives. -/
def Resolves (store : Store) (read : String → Float) (tokens : List Token) : Prop :=
  ∀ label ∈ references tokens, store.resolve label = .ok (read label)

variable {store : Store} {read : String → Float} {first second tokens : List Token}
  {operator : Operator}

/-- The references of a left operand resolve. -/
theorem Resolves.left (resolves : Resolves store read (first ++ .operator operator :: second)) :
    Resolves store read first := by
  intro label member
  apply resolves
  rw [references_operation]
  exact List.mem_append_left _ member

/-- The references of a right operand resolve. -/
theorem Resolves.right (resolves : Resolves store read (first ++ .operator operator :: second)) :
    Resolves store read second := by
  intro label member
  apply resolves
  rw [references_operation]
  exact List.mem_append_right _ member

/-- The references inside parentheses resolve. -/
theorem Resolves.inner (resolves : Resolves store read (.openGroup :: tokens ++ [.closeGroup])) :
    Resolves store read tokens := by
  intro label member
  apply resolves
  rwa [references_group]

end Formula

mutual

/-- The tokens of an expression denote its computation. -/
theorem Expression.denotes {store : Store} {read : String → Float} :
    (expression : Expression) → Formula.Resolves store read expression.tokens →
      Formula.Denotes store 1 expression.tokens (expression.computation read)
  | .term term, resolves => (term.denotes resolves).weaken (by decide)
  | .add left right, resolves =>
    .operation .add (left.denotes (.left resolves)) (right.denotes (.right resolves))
  | .subtract left right, resolves =>
    .operation .subtract (left.denotes (.left resolves)) (right.denotes (.right resolves))

/-- The tokens of a term denote its computation, at the level of products. -/
theorem Term.denotes {store : Store} {read : String → Float} :
    (term : Term) → Formula.Resolves store read term.tokens →
      Formula.Denotes store 2 term.tokens (term.computation read)
  | .factor factor, resolves => (factor.denotes resolves).weaken (by decide)
  | .multiply left right, resolves =>
    .operation .multiply (left.denotes (.left resolves)) (right.denotes (.right resolves))
  | .divide left right, resolves =>
    .operation .divide (left.denotes (.left resolves)) (right.denotes (.right resolves))

/-- The tokens of a factor denote its computation, at a level above all operators. -/
theorem Factor.denotes {store : Store} {read : String → Float} :
    (factor : Factor) → Formula.Resolves store read factor.tokens →
      Formula.Denotes store 3 factor.tokens (factor.computation read)
  | .number value, _ => .number value
  | .reference label, resolves => .reference (resolves label (List.mem_singleton_self label))
  | .group inner, resolves => .group (inner.denotes (.inner resolves))

end

end Spreadsheet
