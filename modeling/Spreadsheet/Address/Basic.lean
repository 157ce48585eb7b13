import Std.Data.TreeMap

/-!
# Cell addresses

An address is a position on the grid, counted from zero. Addresses are ordered
row by row, so ascending addresses walk a sheet from top to bottom.
-/

namespace Spreadsheet

/-- A position on the grid, counted from zero. -/
structure Address where
  row : Nat
  column : Nat
deriving DecidableEq, Repr

namespace Address

/-- The number of rows that a label can name. -/
def rowLimit : Nat := 1048576

/-- The number of columns that a label can name. -/
def columnLimit : Nat := 16384

/-- Row-major order: rows first, columns within a row. -/
instance : Ord Address :=
  ⟨compareLex (compareOn Address.row) (compareOn Address.column)⟩

instance : Std.TransOrd Address :=
  inferInstanceAs (Std.TransCmp (compareLex (compareOn Address.row) (compareOn Address.column)))

/-- Rows are compared first, and columns where the rows are equal. -/
theorem compare_eq_then (left right : Address) :
    compare left right =
      (compare left.row right.row).then (compare left.column right.column) :=
  rfl

instance : Std.LawfulEqOrd Address where
  eq_of_compare {left right} equal := by
    obtain ⟨row, column⟩ := left
    obtain ⟨row', column'⟩ := right
    simpa only [compare_eq_then, Ordering.then_eq_eq, Nat.compare_eq_eq, mk.injEq] using equal

/-- Row-major order, spelled out on rows and columns. -/
theorem compare_eq_lt_iff (left right : Address) :
    compare left right = .lt ↔
      left.row < right.row ∨ (left.row = right.row ∧ left.column < right.column) := by
  simp only [compare_eq_then, Ordering.then_eq_lt, Nat.compare_eq_lt, Nat.compare_eq_eq]

/-- The addresses in row-major order, repeated ones kept. -/
def sorted (addresses : List Address) : List Address :=
  addresses.mergeSort fun left right => (compare left right).isLE

/-- Whether the position is one that a label can name. -/
def InBounds (address : Address) : Prop :=
  address.row < rowLimit ∧ address.column < columnLimit

instance (address : Address) : Decidable address.InBounds :=
  inferInstanceAs (Decidable (_ ∧ _))

end Address

end Spreadsheet
