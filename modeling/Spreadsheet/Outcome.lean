import Spreadsheet.CellError

/-!
# Outcomes

Evaluation always gives a number, and beside it an error if something was wrong.
Some errors keep a number that means something: a repaired formula still reports
what it computed.
-/

namespace Spreadsheet

/-- The result of an evaluation: a number, and an error if something was wrong. -/
structure Outcome where
  value : Float
  error : Option CellError
deriving DecidableEq

namespace Outcome

/-- A clean result. -/
def ok (value : Float) : Outcome :=
  ⟨value, none⟩

/-- A failure with the number that stands in for its result. -/
def failed (error : CellError) : Outcome :=
  ⟨error.standIn, some error⟩

/-- A failure that reports zero. -/
def zero (error : CellError) : Outcome :=
  ⟨0.0, some error⟩

/-- Whether nothing was wrong. -/
def isOk (outcome : Outcome) : Bool :=
  outcome.error.isNone

/-- Equality of reports: numbers compare as numbers, so not-a-number differs from
itself and the two zeros are equal. -/
def agrees (left right : Outcome) : Bool :=
  left.value == right.value && left.error == right.error

end Outcome

end Spreadsheet
