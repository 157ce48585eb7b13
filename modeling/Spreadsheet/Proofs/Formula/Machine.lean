import Spreadsheet.Formula.Machine

/-!
# What one step does to the stacks

Applying an entry looks at the values alone, never at what else is pending, so
`withPending` moves freely past it. Every application takes at least one value off
the stack, down to the empty stack, and on fewer than two values it always fails.
The general steps are then known by how far down the operator stack they reach.
-/

namespace Spreadsheet.Machine

/-- The machine with another operator stack. -/
def withPending (machine : Machine) (pending : List Pending) : Machine :=
  { machine with pending }

@[simp] theorem withPending_values (machine : Machine) (pending : List Pending) :
    (machine.withPending pending).values = machine.values := rfl

@[simp] theorem withPending_pending (machine : Machine) (pending : List Pending) :
    (machine.withPending pending).pending = pending := rfl

@[simp] theorem withPending_error (machine : Machine) (pending : List Pending) :
    (machine.withPending pending).error = machine.error := rfl

/-- Of two stacks of pending entries the last one stays. -/
@[simp] theorem withPending_withPending (machine : Machine) (first second : List Pending) :
    (machine.withPending first).withPending second = machine.withPending second := rfl

/-- A machine has the entries that it has. -/
@[simp] theorem withPending_self (machine : Machine) :
    machine.withPending machine.pending = machine := rfl

/-- A value is pushed whatever is pending. -/
theorem pushValue_withPending (machine : Machine) (pending : List Pending) (value : Float) :
    (machine.withPending pending).pushValue value =
      (machine.pushValue value).withPending pending := rfl

/-! ## Applying entries -/

/-- An application neither reads nor changes what else is pending. -/
theorem apply_withPending (machine : Machine) (pending : List Pending) (entry : Pending) :
    (machine.withPending pending).apply entry = (machine.apply entry).withPending pending := by
  obtain ⟨values, before, error⟩ := machine
  rcases values with _ | ⟨right, _ | ⟨left, values⟩⟩
  · cases entry <;> rfl
  · cases entry <;> rfl
  · cases entry with
    | group => rfl
    | operator operator =>
      simp only [apply, withPending]
      cases operator.result? left right <;> rfl

/-- An application leaves what is pending below the entry as it was. -/
@[simp] theorem apply_pending (machine : Machine) (entry : Pending) :
    (machine.apply entry).pending = machine.pending := by
  have moved := apply_withPending machine machine.pending entry
  rw [withPending_self] at moved
  rw [moved, withPending_pending]

/-- Applications in turn do not look at what else is pending. -/
theorem foldl_apply_withPending (entries : List Pending) (machine : Machine)
    (pending : List Pending) :
    entries.foldl apply (machine.withPending pending) =
      (entries.foldl apply machine).withPending pending := by
  induction entries generalizing machine with
  | nil => rfl
  | cons entry entries ih => rw [List.foldl_cons, List.foldl_cons, apply_withPending, ih]

/-- Applications in turn leave what else is pending as it was. -/
@[simp] theorem foldl_apply_pending (entries : List Pending) (machine : Machine) :
    (entries.foldl apply machine).pending = machine.pending := by
  have moved := foldl_apply_withPending entries machine machine.pending
  rw [withPending_self] at moved
  rw [moved, withPending_pending]

/-- With fewer than two values every application fails and nothing is left. -/
theorem apply_of_length_le_one {machine : Machine} (short : machine.values.length ≤ 1)
    (entry : Pending) :
    machine.apply entry = ⟨[], machine.pending, some .invalidOperator⟩ := by
  obtain ⟨values, pending, error⟩ := machine
  rcases values with _ | ⟨right, _ | ⟨left, values⟩⟩
  · cases entry <;> rfl
  · cases entry <;> rfl
  · simp at short

/-- An operator with two values on the stack puts its result in their place; a division
by zero leaves nothing there. -/
theorem apply_operator (machine : Machine) (operator : Operator) (left right : Float) :
    ((machine.pushValue left).pushValue right).apply (.operator operator) =
      match operator.result? left right with
      | some value => machine.pushValue value
      | none => { machine with error := some .divideByZero } := by
  cases result : operator.result? left right with
  | some value => simp [apply, pushValue, result]
  | none => simp [apply, pushValue, result]

/-- Every application takes values off the stack. -/
theorem length_apply_le (machine : Machine) (entry : Pending) :
    (machine.apply entry).values.length ≤ machine.values.length - 1 := by
  obtain ⟨values, pending, error⟩ := machine
  rcases values with _ | ⟨right, _ | ⟨left, values⟩⟩
  · cases entry <;> simp [apply]
  · cases entry <;> simp [apply]
  · cases entry with
    | group => simp [apply]
    | operator operator =>
      simp only [apply]
      cases operator.result? left right <;> simp

/-! ## Applying down to a boundary -/

/-- What is left pending is what the condition does not take. -/
theorem applyWhile_pending (machine : Machine) (condition : Pending → Bool) :
    (machine.applyWhile condition).pending = machine.pending.dropWhile condition :=
  foldl_apply_pending _ _

/-- What satisfies the condition on top of the stack is applied; what lies below an
entry that does not satisfy it stays. -/
theorem applyWhile_append {machine : Machine} {condition : Pending → Bool}
    {above below : List Pending} (stacked : machine.pending = above ++ below)
    (taken : ∀ entry ∈ above, condition entry = true)
    (kept : ∀ entry ∈ below.head?, condition entry = false) :
    machine.applyWhile condition = above.foldl apply (machine.withPending below) := by
  have stops : below.takeWhile condition = [] ∧ below.dropWhile condition = below := by
    cases below with
    | nil => exact ⟨rfl, rfl⟩
    | cons entry below =>
      have refused := kept entry rfl
      exact ⟨List.takeWhile_cons_of_neg (by simp [refused]),
        List.dropWhile_cons_of_neg (by simp [refused])⟩
  unfold applyWhile
  rw [stacked, List.takeWhile_append_of_pos taken, List.dropWhile_append_of_pos taken,
    stops.1, stops.2, List.append_nil]
  rfl

/-- What comes to the top in the end does not satisfy the condition. -/
theorem refused_applyWhile (machine : Machine) (condition : Pending → Bool) :
    ∀ entry ∈ (machine.applyWhile condition).pending.head?, condition entry = false := by
  intro entry top
  have kept := List.head?_dropWhile_not condition machine.pending
  rw [applyWhile_pending, Option.mem_def] at top
  rw [top] at kept
  exact kept

/-- Nothing is applied if the entry on top does not satisfy the condition. -/
theorem applyWhile_of_refused {machine : Machine} {condition : Pending → Bool}
    (refused : ∀ entry ∈ machine.pending.head?, condition entry = false) :
    machine.applyWhile condition = machine :=
  applyWhile_append (List.nil_append machine.pending).symm (List.forall_mem_nil _) refused

/-- An entry on top that satisfies the condition is the first to be applied. -/
theorem applyWhile_of_taken {machine : Machine} {condition : Pending → Bool} {entry : Pending}
    {below : List Pending} (stacked : machine.pending = entry :: below)
    (taken : condition entry = true) :
    machine.applyWhile condition =
      ((machine.withPending below).apply entry).applyWhile condition := by
  simp only [applyWhile, apply_pending, withPending_pending, stacked,
    List.takeWhile_cons_of_pos taken, List.dropWhile_cons_of_pos taken, List.foldl_cons]
  have moved := apply_withPending (machine.withPending below) (below.dropWhile condition) entry
  exact congrArg (List.foldl apply · (below.takeWhile condition)) moved

/-- Draining applies everything that is pending. -/
theorem drain_eq (machine : Machine) :
    machine.drain = machine.pending.foldl apply (machine.withPending []) :=
  applyWhile_append (List.append_nil _).symm (fun _ _ => rfl) (fun _ none => nomatch none)

end Spreadsheet.Machine
