import Mathlib.Logic.Relation
import Spreadsheet.Proofs.Formula.Errors
import Spreadsheet.Proofs.Formula.Machine

/-!
# A scan, one application at a time

`Formula.step` deals with a token at once. Here the same scan goes on in moves: a token has
the entry on top of the operator stack applied, one entry in each move, and is put in its
place once there is nothing more to apply. What the moves lead to are all the states that the
machine passes through, those in the middle of a token included.

The moves are the scan. By `reaches_of_scan` they pass through every machine that the scan of
some of the tokens returns, and by `Reaches.scan_eq` what is left of the scan comes to the same
after each of them.
-/

namespace Spreadsheet

/-- Whether a token has an entry applied before it is put in its place. -/
def Token.forces : Token → Pending → Bool
  | .operator own => Pending.precedes own
  | .closeGroup => Pending.isInGroup
  | _ => fun _ => false

namespace Formula

variable {store : Store}

/-- What a token does to the machine once nothing more is to be applied. -/
def place (store : Store) (machine : Machine) : Token → Except CellError Machine
  | .number value => .ok (machine.pushValue value)
  | .reference label => (store.resolve label).map machine.pushValue
  | .operator operator => .ok (machine.withPending (.operator operator :: machine.pending))
  | .openGroup => .ok machine.openGroup
  | .closeGroup => .ok (machine.withPending (machine.pending.drop 1))
  | .unknown _ => .error .invalidFormula

/-- A step is all applications that the token forces, and then its placement. -/
theorem step_eq_place (store : Store) (machine : Machine) (token : Token) :
    step store machine token = place store (machine.applyWhile token.forces) token := by
  have unforced : machine.applyWhile (fun _ => false) = machine :=
    Machine.applyWhile_of_refused fun _ _ => rfl
  cases token with
  | operator operator => rfl
  | closeGroup => rfl
  | number value => exact congrArg (place store · (.number value)) unforced.symm
  | reference label => exact congrArg (place store · (.reference label)) unforced.symm
  | openGroup => exact congrArg (place store · .openGroup) unforced.symm
  | unknown text => rfl

/-- A scan under way: the tokens that have been dealt with, those to come, of which the first
may have had entries applied already, and the machine. -/
structure Scanning where
  scanned : List Token
  coming : List Token
  machine : Machine

namespace Scanning

/-- The state before the first token. -/
def start (repair : Option CellError) (tokens : List Token) : Scanning :=
  ⟨[], tokens, .start repair⟩

/-- One move of a scan, with the entry that it applies if it applies one. -/
inductive Move (store : Store) : Scanning → Option Pending → Scanning → Prop where
  | application {scanned coming : List Token} {token : Token} {machine : Machine}
      {entry : Pending} {below : List Pending} (stacked : machine.pending = entry :: below)
      (forced : token.forces entry = true) :
      Move store ⟨scanned, token :: coming, machine⟩ (some entry)
        ⟨scanned, token :: coming, (machine.withPending below).apply entry⟩
  | placement {scanned coming : List Token} {token : Token} {machine after : Machine}
      (unforced : ∀ entry ∈ machine.pending.head?, token.forces entry = false)
      (placed : place store machine token = .ok after) :
      Move store ⟨scanned, token :: coming, machine⟩ none ⟨scanned ++ [token], coming, after⟩

/-- Moves lead from one state to another. -/
def Reaches (store : Store) : Scanning → Scanning → Prop :=
  Relation.ReflTransGen fun now next => ∃ applied, Move store now applied next

variable {now next : Scanning} {scanned coming : List Token} {machine after : Machine}

/-! ## What moves keep -/

/-- What every move keeps is kept from one state to all that it leads to. -/
theorem Reaches.preserves {kept : Scanning → Prop}
    (each : ∀ {now applied next}, Move store now applied next → kept now → kept next)
    (reached : Reaches store now next) (initially : kept now) : kept next := by
  induction reached with
  | refl => exact initially
  | tail _ moved inductionHypothesis =>
    obtain ⟨applied, move⟩ := moved
    exact each move inductionHypothesis

/-- Every token is either dealt with or to come. -/
theorem Move.tokens_eq {applied : Option Pending} (move : Move store now applied next) :
    next.scanned ++ next.coming = now.scanned ++ now.coming := by
  cases move with
  | application => rfl
  | placement => exact List.append_assoc _ _ _

/-- However many moves are made, every token is either dealt with or to come. -/
theorem Reaches.tokens_eq (reached : Reaches store now next) :
    next.scanned ++ next.coming = now.scanned ++ now.coming :=
  reached.preserves (fun move same => move.tokens_eq.trans same) rfl

/-- A token that forces nothing more is dealt with by its placement. -/
theorem step_of_unforced {token : Token}
    (unforced : ∀ entry ∈ machine.pending.head?, token.forces entry = false) :
    step store machine token = place store machine token := by
  rw [step_eq_place, Machine.applyWhile_of_refused unforced]

/-- What the rest of the scan comes to is the same before a move and after it. -/
theorem Move.scan_eq {applied : Option Pending} (move : Move store now applied next) :
    scan store next.machine next.coming = scan store now.machine now.coming := by
  cases move with
  | application stacked forced =>
    rw [scan_cons, scan_cons, step_eq_place, step_eq_place,
      Machine.applyWhile_of_taken stacked forced]
  | placement unforced placed =>
    rw [scan_cons, step_of_unforced unforced, placed]
    rfl

/-- However many moves are made, what the scan comes to is the same. -/
theorem Reaches.scan_eq (reached : Reaches store now next) :
    scan store next.machine next.coming = scan store now.machine now.coming :=
  reached.preserves (fun move same => move.scan_eq.trans same) rfl

/-! ## The moves of a scan -/

/-- Moves apply all that the token to come forces. -/
theorem reaches_applyWhile (token : Token) :
    Reaches store ⟨scanned, token :: coming, machine⟩
      ⟨scanned, token :: coming, machine.applyWhile token.forces⟩ := by
  -- Each application leaves one entry less on the operator stack.
  generalize stack : machine.pending = pending
  induction pending generalizing machine with
  | nil =>
    have refused : ∀ entry ∈ machine.pending.head?, token.forces entry = false := by
      rw [stack]
      exact fun _ none => nomatch none
    rw [Machine.applyWhile_of_refused refused]
    exact .refl
  | cons entry below inductionHypothesis =>
    cases forced : token.forces entry with
    | true =>
      have applied : ((machine.withPending below).apply entry).pending = below := by
        rw [Machine.apply_pending, Machine.withPending_pending]
      rw [Machine.applyWhile_of_taken stack forced]
      exact .head ⟨_, .application stack forced⟩ (inductionHypothesis applied)
    | false =>
      have refused : ∀ other ∈ machine.pending.head?, token.forces other = false := by
        rw [stack]
        rintro other ⟨⟩
        exact forced
      rw [Machine.applyWhile_of_refused refused]
      exact .refl

/-- Moves deal with a token as a step does. -/
theorem reaches_of_step {token : Token} (went : step store machine token = .ok after) :
    Reaches store ⟨scanned, token :: coming, machine⟩ ⟨scanned ++ [token], coming, after⟩ := by
  rw [step_eq_place] at went
  have unforced := machine.refused_applyWhile token.forces
  exact (reaches_applyWhile token).tail ⟨none, .placement unforced went⟩

/-- Moves pass through every state that a scan leaves between two tokens. -/
theorem reaches_of_scan (scanned coming : List Token) {tokens : List Token}
    (went : scan store machine tokens = .ok after) :
    Reaches store ⟨scanned, tokens ++ coming, machine⟩ ⟨scanned ++ tokens, coming, after⟩ := by
  induction tokens generalizing scanned machine with
  | nil =>
    cases went
    rw [List.append_nil]
    exact .refl
  | cons token tokens inductionHypothesis =>
    obtain ⟨next, first, later⟩ := scan_cons_eq_ok.mp went
    have onward := inductionHypothesis (scanned ++ [token]) later
    rw [List.append_assoc, List.singleton_append] at onward
    exact (reaches_of_step first).trans onward

end Scanning

end Formula

end Spreadsheet
