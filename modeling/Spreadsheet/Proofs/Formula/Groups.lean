import Spreadsheet.Proofs.Formula.Errors
import Spreadsheet.Proofs.Formula.Machine

/-!
# Open groups

Scanning from left to right, an opening parenthesis raises the depth by one and a closing
one lowers it, though never below zero. The operator stack holds one entry for each group
that is open: operators are applied down to the innermost group and never beyond it, so
the entries for groups follow the depth of the tokens whatever else has failed.
-/

namespace Spreadsheet

/-- No operator has a group applied. -/
theorem Pending.precedes_group (operator : Operator) : precedes operator .group = false := by
  cases operator <;> rfl

namespace Machine

/-- The number of groups that are open. -/
def groups (machine : Machine) : Nat :=
  machine.pending.count .group

/-- Applying operators up to a group leaves every group open. -/
theorem groups_applyWhile {condition : Pending → Bool} (stops : condition .group = false)
    (machine : Machine) : (machine.applyWhile condition).groups = machine.groups := by
  have untaken : (machine.pending.takeWhile condition).count .group = 0 := by
    refine List.count_eq_zero.mpr fun taken => ?_
    have satisfied := List.all_eq_true.mp List.all_takeWhile _ taken
    cases stops.symm.trans satisfied
  have parts := congrArg (List.count .group)
    (List.takeWhile_append_dropWhile (p := condition) (l := machine.pending))
  rw [List.count_append, untaken, Nat.zero_add] at parts
  rw [groups, applyWhile_pending, parts, groups]

/-- An operator that is pushed opens and closes no group. -/
theorem groups_pushOperator (machine : Machine) (operator : Operator) :
    (machine.pushOperator operator).groups = machine.groups := by
  rw [← machine.groups_applyWhile (Pending.precedes_group operator)]
  exact List.count_cons_of_ne Pending.noConfusion

/-- Applying the operators of the innermost group leaves that group on top, if one is open. -/
theorem pending_applyWhile_isInGroup (machine : Machine) :
    (machine.applyWhile Pending.isInGroup).pending = [] ∨
      ∃ below, (machine.applyWhile Pending.isInGroup).pending = .group :: below := by
  have refused := machine.refused_applyWhile Pending.isInGroup
  cases left : (machine.applyWhile Pending.isInGroup).pending with
  | nil => exact .inl rfl
  | cons entry below =>
    rw [left] at refused
    cases entry with
    | group => exact .inr ⟨below, rfl⟩
    | operator operator => cases refused _ rfl

/-- Closing a group takes it off the stack; without one there is nothing to take. -/
theorem groups_closeGroup (machine : Machine) :
    machine.closeGroup.groups = machine.groups - 1 := by
  rw [← groups_applyWhile (rfl : Pending.isInGroup .group = false) machine, groups, groups,
    closeGroup]
  rcases machine.pending_applyWhile_isInGroup with empty | ⟨below, top⟩
  · rw [empty]
    rfl
  · rw [top]
    simp

end Machine

namespace Formula

variable {store : Store} {tokens : List Token} {machine after : Machine}

/-- The depth after one more token. -/
def depthAfter (depth : Nat) : Token → Nat
  | .openGroup => depth + 1
  | .closeGroup => depth - 1
  | _ => depth

/-- The depth at the end of the tokens. -/
def depth (tokens : List Token) : Nat :=
  tokens.foldl depthAfter 0

/-- A step changes the number of open groups as its token changes the depth. -/
theorem groups_step {token : Token} (went : step store machine token = .ok after) :
    after.groups = depthAfter machine.groups token := by
  cases token with
  | number value =>
    cases went
    rfl
  | reference label =>
    obtain ⟨value, -, rfl⟩ := step_reference_eq_ok.mp went
    rfl
  | operator operator =>
    cases went
    exact machine.groups_pushOperator operator
  | openGroup =>
    cases went
    exact List.count_cons_self
  | closeGroup =>
    cases went
    exact machine.groups_closeGroup
  | unknown text => cases went

/-- At the end of a scan as many groups have been opened and not closed as the depth of the
tokens says. -/
theorem groups_scan (went : scan store machine tokens = .ok after) :
    after.groups = tokens.foldl depthAfter machine.groups := by
  induction tokens generalizing machine with
  | nil =>
    cases went
    rfl
  | cons token tokens inductionHypothesis =>
    obtain ⟨next, first, later⟩ := scan_cons_eq_ok.mp went
    rw [inductionHypothesis later, groups_step first, List.foldl_cons]

end Formula

end Spreadsheet
