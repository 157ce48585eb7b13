import Spreadsheet.Proofs.Formula.Arithmetic
import Spreadsheet.Proofs.Formula.Groups

/-!
# A closing parenthesis without an opening one

Where no group is open, a closing parenthesis applies everything that is pending, just as if
a group had been open since the start of the formula. Two machines are compared that differ
in one open group at the bottom of the operator stack. No step reaches that group but a
closing parenthesis that meets no other, and after it the two machines are the same.
-/

namespace Spreadsheet

namespace Machine

/-- The machine with one more open group, below everything that is pending. -/
def onGroup (machine : Machine) : Machine :=
  machine.withPending (machine.pending ++ [.group])

/-- What is on top once a condition has taken its entries off fails the condition, also if that
is the group at the bottom. -/
theorem head?_dropWhile_append_group {condition : Pending → Bool}
    (stops : condition .group = false) (entries : List Pending) :
    ∀ entry ∈ (entries.dropWhile condition ++ [Pending.group]).head?, condition entry = false := by
  intro entry top
  have refused := List.head?_dropWhile_not condition entries
  cases left : entries.dropWhile condition with
  | nil =>
    rw [left] at top
    cases top
    exact stops
  | cons first rest =>
    rw [left] at top refused
    cases top
    exact refused

/-- Applying operators up to a group does not reach the one at the bottom. -/
theorem applyWhile_onGroup {condition : Pending → Bool} (stops : condition .group = false)
    (machine : Machine) :
    machine.onGroup.applyWhile condition = (machine.applyWhile condition).onGroup := by
  let above := machine.pending.takeWhile condition
  let below := machine.pending.dropWhile condition
  have parts : above ++ below = machine.pending := List.takeWhile_append_dropWhile
  have stacked : machine.onGroup.pending = above ++ (below ++ [.group]) := by
    rw [← List.append_assoc, parts]
    rfl
  have taken : ∀ entry ∈ above, condition entry = true :=
    List.all_eq_true.mp List.all_takeWhile
  have kept : ∀ entry ∈ (below ++ [Pending.group]).head?, condition entry = false :=
    head?_dropWhile_append_group stops machine.pending
  calc machine.onGroup.applyWhile condition
      = above.foldl apply (machine.withPending (below ++ [.group])) :=
        applyWhile_append stacked taken kept
    _ = (above.foldl apply (machine.withPending below)).withPending (below ++ [.group]) := by
        rw [← foldl_apply_withPending, withPending_withPending]
    _ = (machine.applyWhile condition).onGroup := by
        rw [onGroup, applyWhile_pending]
        rfl

/-- An operator is pushed the same way above a group at the bottom. -/
theorem pushOperator_onGroup (machine : Machine) (operator : Operator) :
    machine.onGroup.pushOperator operator = (machine.pushOperator operator).onGroup := by
  simp only [pushOperator, applyWhile_onGroup (Pending.precedes_group operator)]
  rfl

/-- Closing a group above the bottom leaves the one at the bottom. -/
theorem closeGroup_onGroup {machine : Machine} (isOpen : machine.groups ≠ 0) :
    machine.onGroup.closeGroup = machine.closeGroup.onGroup := by
  rw [← groups_applyWhile (rfl : Pending.isInGroup .group = false) machine] at isOpen
  have applied := applyWhile_onGroup (rfl : Pending.isInGroup .group = false) machine
  simp only [closeGroup, applied]
  rcases machine.pending_applyWhile_isInGroup with empty | ⟨below, top⟩
  · rw [groups, empty] at isOpen
    exact absurd rfl isOpen
  · simp only [onGroup, top]
    rfl

/-- Without a group above the bottom, the one at the bottom is closed. -/
theorem closeGroup_onGroup_of_groups_eq_zero {machine : Machine} (noneOpen : machine.groups = 0) :
    machine.onGroup.closeGroup = machine.closeGroup := by
  rw [← groups_applyWhile (rfl : Pending.isInGroup .group = false) machine] at noneOpen
  have applied := applyWhile_onGroup (rfl : Pending.isInGroup .group = false) machine
  simp only [closeGroup, applied]
  rcases machine.pending_applyWhile_isInGroup with empty | ⟨below, top⟩
  · simp only [onGroup, empty]
    rfl
  · rw [groups, top, List.count_cons_self] at noneOpen
    cases noneOpen

end Machine

namespace Formula

variable {store : Store} {tokens : List Token} {machine : Machine}

/-- A step leaves the group at the bottom alone, unless it closes a group and no other is open. -/
theorem step_onGroup {token : Token} (above : token = .closeGroup → machine.groups ≠ 0) :
    step store machine.onGroup token = (step store machine token).map Machine.onGroup := by
  cases token with
  | reference label =>
    simp only [step]
    cases store.resolve label <;> rfl
  | operator operator => exact congrArg Except.ok (machine.pushOperator_onGroup operator)
  | closeGroup => exact congrArg Except.ok (Machine.closeGroup_onGroup (above rfl))
  | _ => rfl

/-- Some beginning of the tokens closes more groups than are open before it and opened in it. -/
def ClosesBeyond (depth : Nat) (tokens : List Token) : Prop :=
  ∃ before, before <+: tokens ∧ depth + before.count .openGroup < before.count .closeGroup

/-- Nothing is closed where there is no token. -/
theorem not_closesBeyond_nil (depth : Nat) : ¬ ClosesBeyond depth [] := by
  rintro ⟨before, isPrefix, more⟩
  rw [List.prefix_nil.mp isPrefix] at more
  cases more

/-- What the tokens after the first close beyond, unless the first does so itself. -/
theorem ClosesBeyond.tail {depth : Nat} {token : Token}
    (closes : ClosesBeyond depth (token :: tokens)) (above : token = .closeGroup → depth ≠ 0) :
    ClosesBeyond (depthAfter depth token) tokens := by
  obtain ⟨before, isPrefix, more⟩ := closes
  rcases List.prefix_cons_iff.mp isPrefix with rfl | ⟨later, rfl, isLater⟩
  · cases more
  · refine ⟨later, isLater, ?_⟩
    cases token with
    | openGroup =>
      simp [depthAfter] at more ⊢
      omega
    | closeGroup =>
      have notZero := above rfl
      simp [depthAfter] at more ⊢
      omega
    | _ => simpa [depthAfter] using more

/-- A scan that closes more groups than are open does not notice one more at the bottom. -/
theorem scan_onGroup (closes : ClosesBeyond machine.groups tokens) :
    scan store machine.onGroup tokens = scan store machine tokens := by
  induction tokens generalizing machine with
  | nil => exact absurd closes (not_closesBeyond_nil _)
  | cons token tokens inductionHypothesis =>
    rw [scan_cons, scan_cons]
    by_cases reached : token = .closeGroup ∧ machine.groups = 0
    · obtain ⟨rfl, noneOpen⟩ := reached
      rw [step, step, Machine.closeGroup_onGroup_of_groups_eq_zero noneOpen]
    · have above : token = .closeGroup → machine.groups ≠ 0 := fun isClose noneOpen =>
        reached ⟨isClose, noneOpen⟩
      rw [step_onGroup above]
      cases went : step store machine token with
      | error error => rfl
      | ok next =>
        have later := closes.tail above
        rw [← groups_step went] at later
        exact inductionHypothesis later

end Formula

/-! ## The report -/

/-- A single value is left, and it is not a number. -/
def Machine.HoldsNaN (machine : Machine) : Prop :=
  ∃ value, machine.values = [value] ∧ value.isNaN = true

namespace Formula

variable {store : Store} {formula : List Token} {machine : Machine}

/-- The error that is reported does not depend on the first token. -/
theorem report_error_eq (first second : Option Token) (machine : Machine) :
    (report first machine).error = (report second machine).error := by
  unfold report
  split
  · split <;> rfl
  · rfl

/-- The first token is looked at only for a value that is not a number. -/
theorem report_eq_of_not_holdsNaN (number : ¬ machine.HoldsNaN) (first second : Option Token) :
    report first machine = report second machine := by
  unfold report
  split
  · rename_i value single
    have isNumber : ¬ value.isNaN = true := fun isNaN => number ⟨value, single, isNaN⟩
    rw [if_neg isNumber, if_neg isNumber]
  · rfl

/-- For a value that is not a number the first token stands in, if that is a number. -/
theorem report_value_of_holdsNaN (holdsNaN : machine.HoldsNaN) (first : Option Token) :
    (report first machine).value = (first.bind Token.number?).getD Decimal.undefined := by
  obtain ⟨value, single, isNaN⟩ := holdsNaN
  simp only [report, single, if_pos isNaN]

/-- The run of a formula leaves a single value, which is not a number. A formula that ends in a
division by a zero spelled out is not run. -/
def LeavesNaN (store : Store) (formula : List Token) : Prop :=
  ¬ SpellsZeroDivision formula ∧
    ∃ machine, scan store (.start none) formula = .ok machine ∧ machine.drain.HoldsNaN

/-! ## The evaluation -/

/-- A parenthesis in front leaves tokens complete. -/
theorem IsComplete.openGroup (complete : IsComplete formula) :
    IsComplete (.openGroup :: formula) where
  holdsOperand := by rw [List.any_cons, complete.holdsOperand, Bool.or_true]
  endsClosed := by
    obtain ⟨before, last, rfl, closed⟩ := complete.endsClosed
    exact ⟨.openGroup :: before, last, rfl, closed⟩

/-- A parenthesis in front is none of the last two tokens of a division by zero. -/
theorem spellsZeroDivision_openGroup :
    SpellsZeroDivision (.openGroup :: formula) ↔ SpellsZeroDivision formula := by
  refine exists_congr fun zero => and_congr_left fun _ => ?_
  rw [List.suffix_cons_iff]
  exact or_iff_right fun same => nomatch same

/-- A formula that closes more groups than it has opened at some point is scanned as if a group
had been opened before it. -/
theorem scan_openGroup_cons (closes : ClosesBeyond 0 formula) :
    scan store (.start none) (.openGroup :: formula) = scan store (.start none) formula := by
  have opened : scan store (.start none) (.openGroup :: formula) =
      scan store (Machine.start none).onGroup formula := scan_cons _ _ _ _
  rw [opened]
  exact scan_onGroup closes

/-- An unmatched closing parenthesis acts as if a group had been opened at the start. A formula
that holds an operand and does not end in an operator, and of which some beginning closes more
groups than it opens, has the same error with an opening parenthesis before it. It has the same
value as well, unless its run leaves a single value that is not a number: then the values are
those that the first tokens spell, if they spell any. -/
theorem evaluate_openGroup_cons (store : Store) {formula : List Token}
    (complete : IsComplete formula)
    (unmatched : ∃ before, before <+: formula ∧
      before.count .openGroup < before.count .closeGroup) :
    (evaluate store (.openGroup :: formula)).error = (evaluate store formula).error ∧
    (¬ LeavesNaN store formula →
      (evaluate store (.openGroup :: formula)).value = (evaluate store formula).value) ∧
    (LeavesNaN store formula →
      (evaluate store (.openGroup :: formula)).value = 0.0 / 0.0 ∧
      (evaluate store formula).value =
        (formula.head?.bind Token.number?).getD (0.0 / 0.0)) := by
  have closes : ClosesBeyond 0 formula := by simpa only [ClosesBeyond, Nat.zero_add] using unmatched
  have sameCheck : endsInZeroDivision (.openGroup :: formula) = endsInZeroDivision formula := by
    rw [Bool.eq_iff_iff, endsInZeroDivision_iff, endsInZeroDivision_iff,
      spellsZeroDivision_openGroup]
  rw [complete.openGroup.evaluate_eq, complete.evaluate_eq, sameCheck, LeavesNaN,
    ← endsInZeroDivision_iff]
  split
  · rename_i spelled
    exact ⟨rfl, fun _ => rfl, fun leavesNaN => absurd spelled leavesNaN.1⟩
  · rename_i unspelled
    rw [run, run, scan_openGroup_cons closes]
    cases scanned : scan store (.start none) formula with
    | error error =>
      refine ⟨rfl, fun _ => rfl, ?_⟩
      rintro ⟨-, machine, went, -⟩
      cases went
    | ok machine =>
      refine ⟨report_error_eq _ _ machine.drain, fun notNaN => ?_, ?_⟩
      · have number : ¬ machine.drain.HoldsNaN := fun holdsNaN =>
          notNaN ⟨unspelled, machine, rfl, holdsNaN⟩
        exact congrArg Outcome.value (report_eq_of_not_holdsNaN number _ _)
      · rintro ⟨-, _, ⟨⟩, holdsNaN⟩
        exact ⟨report_value_of_holdsNaN holdsNaN _, report_value_of_holdsNaN holdsNaN _⟩

/-- A closing parenthesis in the middle groups what is before it. One at the end changes nothing
but the number that stands in for a difference of infinities. -/
theorem evaluate_openGroup_cons_grouped :
    let store : Store := fun _ => some { formula := ["x"], outcome := .ok Decimal.infinity }
    let product : List Token :=
      [.number 1.0, .operator .add, .number 2.0, .closeGroup, .operator .multiply, .number 3.0]
    let difference : List Token :=
      [.number 2.0, .operator .multiply, .reference "A1", .operator .subtract, .reference "A1",
        .closeGroup]
    IsComplete product ∧
      (∃ before, before <+: product ∧ before.count .openGroup < before.count .closeGroup) ∧
      ¬ LeavesNaN store product ∧ evaluate store product = .ok 9.0 ∧
      (evaluate store (.openGroup :: product)).error = none ∧
      (evaluate store (.openGroup :: product)).value = 9.0 ∧
    IsComplete difference ∧
      (∃ before, before <+: difference ∧ before.count .openGroup < before.count .closeGroup) ∧
      LeavesNaN store difference ∧
      (evaluate store difference) = ⟨2.0, some .invalidFormula⟩ ∧
      (evaluate store (.openGroup :: difference)).error = some .invalidFormula ∧
      (evaluate store (.openGroup :: difference)).value = 0.0 / 0.0 := by
  intro store product difference
  have productComplete : IsComplete product := ⟨rfl, product.take 5, .number 3.0, rfl, rfl⟩
  have productUnmatched : ∃ before, before <+: product ∧
      before.count .openGroup < before.count .closeGroup :=
    ⟨product.take 4, List.take_prefix 4 product, by decide +kernel⟩
  have productScan : scan store (.start none) product =
      .ok ⟨[3.0, 3.0], [.operator .multiply], none⟩ := rfl
  have productNumber : ¬ LeavesNaN store product := by
    rintro ⟨-, machine, scanned, value, single, isNaN⟩
    cases productScan.symm.trans scanned
    have drained : (⟨[3.0, 3.0], [.operator .multiply], none⟩ : Machine).drain.values = [9.0] := by
      decide +kernel
    cases drained.symm.trans single
    revert isNaN
    decide +kernel
  have productValue : evaluate store product = .ok 9.0 := by decide +kernel
  have differenceComplete : IsComplete difference :=
    ⟨rfl, difference.take 5, .closeGroup, rfl, rfl⟩
  have differenceUnmatched : ∃ before, before <+: difference ∧
      before.count .openGroup < before.count .closeGroup :=
    ⟨difference, List.prefix_refl difference, by decide +kernel⟩
  have differenceScan : scan store (.start none) difference =
      .ok ⟨[Decimal.undefined], [], none⟩ := rfl
  have differenceUnspelled : ¬ SpellsZeroDivision difference := by
    rw [← endsInZeroDivision_iff]
    decide
  have differenceNaN : LeavesNaN store difference :=
    ⟨differenceUnspelled, _, differenceScan, Decimal.undefined, rfl, by decide +kernel⟩
  have differenceValue : evaluate store difference = ⟨2.0, some .invalidFormula⟩ := by
    decide +kernel
  obtain ⟨productError, productSame, -⟩ :=
    evaluate_openGroup_cons store productComplete productUnmatched
  obtain ⟨differenceError, -, differenceOther⟩ :=
    evaluate_openGroup_cons store differenceComplete differenceUnmatched
  rw [productValue] at productError productSame
  rw [differenceValue] at differenceError
  exact ⟨productComplete, productUnmatched, productNumber, productValue, productError,
    productSame productNumber, differenceComplete, differenceUnmatched, differenceNaN,
    differenceValue, differenceError, (differenceOther differenceNaN).1⟩

end Formula

end Spreadsheet
