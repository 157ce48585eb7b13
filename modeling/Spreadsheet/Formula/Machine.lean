import Spreadsheet.CellError
import Spreadsheet.Formula.Operator

/-!
# The two-stack machine

A formula is evaluated from left to right with a stack of values and a stack of
pending operators and open groups. An operator is applied once a token arrives that
binds no tighter. A step that cannot be done loses the values it took and leaves an
error behind; the machine goes on, and a later error replaces an earlier one.
-/

namespace Spreadsheet

/-- An entry of the operator stack: an operator or an open group. -/
inductive Pending where
  | operator (operator : Operator)
  | group
deriving DecidableEq, Repr

namespace Pending

/-- How tightly an entry binds; a group holds back every operator before it. -/
def precedence : Pending → Nat
  | .operator own => own.precedence
  | .group => 0

/-- Whether the entry is applied before an operator is pushed onto it. -/
def precedes (operator : Operator) (entry : Pending) : Bool :=
  operator.precedence ≤ entry.precedence

/-- Whether the entry is applied when the innermost group is closed. -/
def isInGroup (entry : Pending) : Bool :=
  entry ≠ .group

end Pending

/-- The two stacks, top first, and the error met last. -/
structure Machine where
  values : List Float
  pending : List Pending
  error : Option CellError
deriving DecidableEq

namespace Machine

/-- Empty stacks, with an error that was met before the start. -/
def start (error : Option CellError) : Machine :=
  ⟨[], [], error⟩

/-- Puts a value onto the stack. -/
def pushValue (machine : Machine) (value : Float) : Machine :=
  { machine with values := value :: machine.values }

/-- Applies an entry that has been taken from the operator stack to the two values on
top. They are gone even if nothing comes of it. -/
def apply (machine : Machine) (entry : Pending) : Machine :=
  match machine.values, entry with
  | right :: left :: values, .operator operator =>
    match operator.result? left right with
    | some value => { machine with values := value :: values }
    | none => { machine with values, error := some .divideByZero }
  | _ :: _ :: values, .group => { machine with values, error := some .invalidOperator }
  | _, _ => { machine with values := [], error := some .invalidOperator }

/-- Takes the entries on top that satisfy a condition, and applies them in turn. -/
def applyWhile (machine : Machine) (condition : Pending → Bool) : Machine :=
  (machine.pending.takeWhile condition).foldl apply
    { machine with pending := machine.pending.dropWhile condition }

/-- Opens a group. -/
def openGroup (machine : Machine) : Machine :=
  { machine with pending := .group :: machine.pending }

/-- Closes the innermost group; without one, everything pending is applied. -/
def closeGroup (machine : Machine) : Machine :=
  let applied := machine.applyWhile Pending.isInGroup
  { applied with pending := applied.pending.drop 1 }

/-- Pushes an operator after what binds at least as tightly has been applied. -/
def pushOperator (machine : Machine) (operator : Operator) : Machine :=
  let applied := machine.applyWhile (Pending.precedes operator)
  { applied with pending := .operator operator :: applied.pending }

/-- Applies everything that is still pending, open groups included. -/
def drain (machine : Machine) : Machine :=
  machine.applyWhile fun _ => true

end Machine

end Spreadsheet
