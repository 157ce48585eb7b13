import Spreadsheet.Proofs.Formula.Groups

/-!
# What a clean evaluation certifies

The machine keeps going after a failure, and many malformed formulas run to the end. An
error once met is never taken back, though, so without one in the end every application on
the way has succeeded: an operator has found two values and has a result on them. Each of
these takes one value and one operator off the stacks, which is what `CleanPassage` keeps
count of, from a single operation to a whole run. An open group that is left over would be
applied in the end, and that always fails.
-/

namespace Spreadsheet

/-! ## Applications -/

/-- An entry as it is applied, with the values that are on the stack at that moment. -/
structure Application where
  entry : Pending
  values : List Float
deriving DecidableEq

namespace Application

/-- The entry is an operator that finds two values and has a result on them. -/
def Succeeds (application : Application) : Prop :=
  ∃ operator left right rest result, application.entry = .operator operator ∧
    application.values = right :: left :: rest ∧ operator.result? left right = some result

/-- The entry is a division and the value on top, its divisor, is zero. -/
def DividesByZero (application : Application) : Prop :=
  application.entry = .operator .divide ∧
    ∃ divisor ∈ application.values.head?, (divisor == 0.0) = true

/-- An application that succeeds does not divide by zero. -/
theorem Succeeds.not_dividesByZero {application : Application}
    (succeeds : application.Succeeds) : ¬ application.DividesByZero := by
  rintro ⟨divides, divisor, onTop, isZero⟩
  obtain ⟨operator, left, right, rest, result, isOperator, stacked, defined⟩ := succeeds
  rw [isOperator] at divides
  rw [stacked] at onTop
  cases divides
  cases onTop
  rw [Operator.result?, if_pos isZero] at defined
  cases defined

end Application

namespace Machine

/-- The applications of entries in turn. -/
def applications (machine : Machine) : List Pending → List Application
  | [] => []
  | entry :: entries => ⟨entry, machine.values⟩ :: (machine.apply entry).applications entries

/-- The applications of the entries on top that satisfy a condition. -/
def applicationsWhile (machine : Machine) (condition : Pending → Bool) : List Application :=
  ({ machine with pending := machine.pending.dropWhile condition }).applications
    (machine.pending.takeWhile condition)

/-- The number of operators that are pending. -/
def operators (machine : Machine) : Nat :=
  machine.pending.countP Pending.isInGroup

/-- What leads from one machine to another without an error: all that is applied on the way
succeeds, and each application takes off one value and one operator. The numbers are those of
the operands and of the operators that arrive. -/
structure CleanPassage (before after : Machine) (applied : List Application)
    (operands operators : Nat) : Prop where
  succeed : ∀ application ∈ applied, application.Succeeds
  values : after.values.length + applied.length = before.values.length + operands
  operators : after.operators + applied.length = before.operators + operators

/-- Passages one after the other add up. -/
theorem CleanPassage.trans {before middle after : Machine} {first second : List Application}
    {operands operators laterOperands laterOperators : Nat}
    (passage : CleanPassage before middle first operands operators)
    (later : CleanPassage middle after second laterOperands laterOperators) :
    CleanPassage before after (first ++ second) (operands + laterOperands)
      (operators + laterOperators) where
  succeed := List.forall_mem_append.mpr ⟨passage.succeed, later.succeed⟩
  values := by
    have firstValues := passage.values
    have laterValues := later.values
    rw [List.length_append]
    omega
  operators := by
    have firstOperators := passage.operators
    have laterOperators := later.operators
    rw [List.length_append]
    omega

/-! ## Entries that are applied without an error -/

/-- An application that leaves no error has succeeded and has taken one value off. -/
theorem succeeds_of_apply {machine : Machine} {entry : Pending}
    (clean : (machine.apply entry).error = none) :
    Application.Succeeds ⟨entry, machine.values⟩ ∧
      machine.values.length = (machine.apply entry).values.length + 1 := by
  obtain ⟨values, pending, error⟩ := machine
  rcases values with _ | ⟨right, _ | ⟨left, values⟩⟩
  · cases entry <;> cases clean
  · cases entry <;> cases clean
  · cases entry with
    | group => cases clean
    | operator operator =>
      cases defined : operator.result? left right with
      | none =>
        simp only [apply, defined] at clean
        cases clean
      | some result =>
        refine ⟨⟨operator, left, right, values, result, rfl, rfl, defined⟩, ?_⟩
        simp [apply, defined]

/-- There is one application for each entry. -/
theorem length_applications (machine : Machine) (entries : List Pending) :
    (machine.applications entries).length = entries.length := by
  induction entries generalizing machine with
  | nil => rfl
  | cons entry entries inductionHypothesis =>
    rw [applications, List.length_cons, inductionHypothesis, List.length_cons]

/-- What a machine has done that applied entries and is left without an error. -/
structure AppliedCleanly (machine : Machine) (entries : List Pending) : Prop where
  succeed : ∀ application ∈ machine.applications entries, application.Succeeds
  operators : ∀ entry ∈ entries, entry.isInGroup = true
  values : machine.values.length = (entries.foldl apply machine).values.length + entries.length

/-- A machine that is left without an error has applied all entries without one. -/
theorem appliedCleanly {entries : List Pending} {machine : Machine}
    (clean : (entries.foldl apply machine).error = none) : machine.AppliedCleanly entries := by
  induction entries generalizing machine with
  | nil =>
    exact { succeed := List.forall_mem_nil _, operators := List.forall_mem_nil _, values := rfl }
  | cons entry entries inductionHypothesis =>
    have later := inductionHypothesis clean
    have firstClean : (machine.apply entry).error = none :=
      (errorStep_foldl_apply entries _).error_eq_none clean
    obtain ⟨succeeds, taken⟩ := succeeds_of_apply firstClean
    obtain ⟨operator, -, -, -, -, isOperator, -, -⟩ := id succeeds
    refine ⟨List.forall_mem_cons.mpr ⟨succeeds, later.succeed⟩,
      List.forall_mem_cons.mpr ⟨congrArg Pending.isInGroup isOperator, later.operators⟩, ?_⟩
    rw [taken, later.values, List.foldl_cons, List.length_cons]
    omega

/-! ## The operations of the machine -/

section Operations

variable {machine : Machine} {condition : Pending → Bool}

/-- Applying entries without an error is a passage with nothing arriving. -/
theorem cleanPassage_applyWhile (clean : (machine.applyWhile condition).error = none) :
    CleanPassage machine (machine.applyWhile condition) (machine.applicationsWhile condition)
      0 0 := by
  have applied := appliedCleanly clean
  have length : (machine.applicationsWhile condition).length =
      (machine.pending.takeWhile condition).length := length_applications _ _
  refine { succeed := applied.succeed, values := ?_, operators := ?_ }
  · rw [length]
    exact applied.values.symm
  · have taken := List.countP_eq_length.mpr applied.operators
    have parts := congrArg (List.countP Pending.isInGroup)
      (List.takeWhile_append_dropWhile (p := condition) (l := machine.pending))
    rw [List.countP_append, taken] at parts
    rw [length, operators, operators, applyWhile_pending]
    omega

/-- Nothing is left pending once the machine is drained. -/
theorem operators_drain (machine : Machine) : machine.drain.operators = 0 := by
  rw [drain_eq, operators, foldl_apply_pending]
  rfl

/-- A value that is pushed is one more operand. -/
theorem cleanPassage_pushValue (value : Float) :
    CleanPassage machine (machine.pushValue value) [] 1 0 :=
  { succeed := List.forall_mem_nil _, values := rfl, operators := rfl }

/-- A group that is opened applies nothing and pushes no operator. -/
theorem cleanPassage_openGroup : CleanPassage machine machine.openGroup [] 0 0 :=
  { succeed := List.forall_mem_nil _, values := rfl, operators := rfl }

/-- An operator that is pushed is one more, after those that it has applied. -/
theorem cleanPassage_pushOperator {operator : Operator}
    (clean : (machine.pushOperator operator).error = none) :
    CleanPassage machine (machine.pushOperator operator)
      (machine.applicationsWhile (Pending.precedes operator)) 0 1 := by
  have applied := cleanPassage_applyWhile clean
  have pushed : (machine.pushOperator operator).operators =
      (machine.applyWhile (Pending.precedes operator)).operators + 1 := List.countP_cons_of_pos rfl
  refine { succeed := applied.succeed, values := applied.values, operators := ?_ }
  have kept := applied.operators
  rw [pushed]
  omega

/-- The group that is taken off in the end is no operator. -/
theorem cleanPassage_closeGroup (clean : machine.closeGroup.error = none) :
    CleanPassage machine machine.closeGroup (machine.applicationsWhile Pending.isInGroup) 0 0 := by
  have applied := cleanPassage_applyWhile clean
  have kept : machine.closeGroup.operators =
      (machine.applyWhile Pending.isInGroup).operators := by
    rw [operators, operators, closeGroup]
    rcases machine.pending_applyWhile_isInGroup with empty | ⟨below, top⟩
    · rw [empty]
      rfl
    · rw [top]
      rfl
  exact
    { succeed := applied.succeed, values := applied.values, operators := kept ▸ applied.operators }

end Operations

end Machine

namespace Formula

variable {store : Store} {tokens : List Token} {machine after : Machine}

/-! ## The applications of a run -/

/-- What is applied as a token arrives. -/
def stepApplications (machine : Machine) : Token → List Application
  | .operator operator => machine.applicationsWhile (Pending.precedes operator)
  | .closeGroup => machine.applicationsWhile Pending.isInGroup
  | _ => []

/-- What is applied in a scan, up to its end or to the token that ends it early. -/
def scanApplications (store : Store) (machine : Machine) : List Token → List Application
  | [] => []
  | token :: tokens =>
    stepApplications machine token ++
      match step store machine token with
      | .error _ => []
      | .ok next => scanApplications store next tokens

/-- What is applied in a run: in the scan, and as the machine is drained after it. -/
def runApplications (store : Store) (repair : Option CellError) (tokens : List Token) :
    List Application :=
  scanApplications store (.start repair) tokens ++
    match scan store (.start repair) tokens with
    | .error _ => []
    | .ok machine => machine.applicationsWhile fun _ => true

/-! ## Steps and scans -/

/-- A step that leaves no error is a clean passage with its token arriving. -/
theorem cleanPassage_step {token : Token} (went : step store machine token = .ok after)
    (clean : after.error = none) :
    machine.CleanPassage after (stepApplications machine token)
      ([token].countP Token.isOperand) ([token].countP Token.isOperator) := by
  cases token with
  | number value =>
    cases went
    exact Machine.cleanPassage_pushValue value
  | reference label =>
    obtain ⟨value, -, rfl⟩ := step_reference_eq_ok.mp went
    exact Machine.cleanPassage_pushValue value
  | operator operator =>
    cases went
    exact Machine.cleanPassage_pushOperator clean
  | openGroup =>
    cases went
    exact Machine.cleanPassage_openGroup
  | closeGroup =>
    cases went
    exact Machine.cleanPassage_closeGroup clean
  | unknown text => cases went

/-- A scan that leaves no error is a clean passage with its tokens arriving. -/
theorem cleanPassage_scan (went : scan store machine tokens = .ok after)
    (clean : after.error = none) :
    machine.CleanPassage after (scanApplications store machine tokens)
      (tokens.countP Token.isOperand) (tokens.countP Token.isOperator) := by
  induction tokens generalizing machine with
  | nil =>
    cases went
    exact { succeed := List.forall_mem_nil _, values := rfl, operators := rfl }
  | cons token tokens inductionHypothesis =>
    obtain ⟨next, first, later⟩ := scan_cons_eq_ok.mp went
    have firstClean : next.error = none := (scan_eq_ok later).1.error_eq_none clean
    have passage := (cleanPassage_step first firstClean).trans (inductionHypothesis later)
    rw [scanApplications, first]
    rwa [← List.countP_append, ← List.countP_append] at passage

/-- A scan that goes through has taken a step for each of its tokens. -/
theorem exists_step_of_mem_scan (went : scan store machine tokens = .ok after) :
    ∀ token ∈ tokens, ∃ before next, step store before token = .ok next := by
  induction tokens generalizing machine with
  | nil => exact List.forall_mem_nil _
  | cons token tokens inductionHypothesis =>
    obtain ⟨next, first, later⟩ := scan_cons_eq_ok.mp went
    exact List.forall_mem_cons.mpr ⟨⟨machine, next, first⟩, inductionHypothesis later⟩

/-! ## The evaluation -/

/-- Without an error an evaluation is a run of the whole formula, with nothing repaired. -/
theorem evaluate_eq_run_of_clean {formula : List Token}
    (clean : (evaluate store formula).error = none) :
    evaluate store formula = run store none formula := by
  rcases evaluate_exits store (evaluate_clean clean).1 with ⟨error, -, exit⟩ | exit | exit
  · rw [exit] at clean
    cases clean
  · exact exit
  · rw [exit] at clean
    cases (run_clean clean).1

/-- A run without an error scans all its tokens and drains the machine without an error, down
to a single value. -/
theorem exists_drained_of_run_clean {repair : Option CellError}
    (clean : (run store repair tokens).error = none) :
    ∃ machine, scan store (.start repair) tokens = .ok machine ∧ machine.drain.error = none ∧
      machine.drain.values.length = 1 := by
  rw [run] at clean
  cases scanned : scan store (.start repair) tokens with
  | error error =>
    rw [scanned] at clean
    cases clean
  | ok machine =>
    rw [scanned] at clean
    refine ⟨machine, rfl, (report_clean clean).1, ?_⟩
    simp only [report] at clean
    split at clean
    · rename_i single
      rw [single, List.length_singleton]
    · cases clean

/-- A run whose machine is drained without an error is a clean passage with all its tokens
arriving. -/
theorem cleanPassage_run {repair : Option CellError}
    (scanned : scan store (.start repair) tokens = .ok machine)
    (drained : machine.drain.error = none) :
    (Machine.start repair).CleanPassage machine.drain (runApplications store repair tokens)
      (tokens.countP Token.isOperand) (tokens.countP Token.isOperator) := by
  have clean : machine.error = none :=
    (machine.errorStep_applyWhile fun _ => true).error_eq_none drained
  rw [runApplications, scanned]
  exact (cleanPassage_scan scanned clean).trans (Machine.cleanPassage_applyWhile drained)

/-- No group is open where a machine is drained without an error. -/
theorem depth_eq_zero_of_drained {repair : Option CellError}
    (scanned : scan store (.start repair) tokens = .ok machine)
    (drained : machine.drain.error = none) : depth tokens = 0 := by
  have applied := Machine.appliedCleanly (machine.drain_eq ▸ drained)
  have groups : machine.groups = depth tokens := groups_scan scanned
  rw [← groups]
  refine List.count_eq_zero.mpr fun openGroup => ?_
  cases applied.operators _ openGroup

/-- What can be relied on after an evaluation without an error. -/
structure Certificate (store : Store) (formula : List Token) : Prop where
  known : ∀ text, .unknown text ∉ formula
  resolves : ∀ label ∈ references formula, ∃ value, store.resolve label = .ok value
  operands : formula.countP Token.isOperand = formula.countP Token.isOperator + 1
  closed : depth formula = 0
  /-- The evaluation has run the whole formula; what has been applied is taken from that run. -/
  isRun : evaluate store formula = run store none formula
  /-- Each operator has been applied. -/
  applied : (runApplications store none formula).length = formula.countP Token.isOperator
  divided : ∀ application ∈ runApplications store none formula, ¬ application.DividesByZero
  isNumber : (evaluate store formula).value.isNaN = false

/-- An evaluation without an error certifies, of any formula whatever, that its tokens are
known, its references resolve, its operands are one more than its operators, its groups are
closed, nothing has been divided by zero and the value is a number. -/
theorem certificate_of_noError {store : Store} {formula : List Token}
    (noError : (evaluate store formula).error = none) : Certificate store formula := by
  obtain ⟨-, resolves, isNumber⟩ := evaluate_clean noError
  have isRun := evaluate_eq_run_of_clean noError
  obtain ⟨machine, scanned, drained, single⟩ := exists_drained_of_run_clean (isRun ▸ noError)
  have passage := cleanPassage_run scanned drained
  have values := passage.values
  have operators := passage.operators
  have drainedOperators := machine.operators_drain
  have startValues : (Machine.start none).values.length = 0 := rfl
  have startOperators : (Machine.start none).operators = 0 := rfl
  refine
    { resolves, isRun, isNumber
      known := ?_
      operands := by omega
      closed := depth_eq_zero_of_drained scanned drained
      applied := by omega
      divided := fun application member => (passage.succeed application member).not_dividesByZero }
  intro text member
  obtain ⟨before, next, went⟩ := exists_step_of_mem_scan scanned _ member
  cases went

/-- A closing parenthesis too many goes unnoticed; the division inside the group is applied. -/
theorem certificate_of_noError_closed_twice :
    let store : Store := fun _ => some { formula := ["2"], outcome := .ok 2.0 }
    let formula : List Token :=
      [.openGroup, .number 6.0, .operator .divide, .reference "A1", .closeGroup, .closeGroup,
        .operator .subtract, .number 1.0]
    (evaluate store formula).error = none ∧ Certificate store formula ∧
      runApplications store none formula =
        [⟨.operator .divide, [2.0, 6.0]⟩, ⟨.operator .subtract, [1.0, 3.0]⟩] := by
  intro store formula
  have noError : (evaluate store formula).error = none := by decide +kernel
  have applied : runApplications store none formula =
      [⟨.operator .divide, [2.0, 6.0]⟩, ⟨.operator .subtract, [1.0, 3.0]⟩] := by decide +kernel
  exact ⟨noError, certificate_of_noError noError, applied⟩

end Formula

end Spreadsheet
