import Spreadsheet.Sheet.Basic

/-!
# Looking up cells

What each operation on a sheet does to the cell at every address, and to the set of
dirty addresses. Two sheets that answer every look-up alike list the same entries.
-/

namespace Spreadsheet

namespace Cell

@[simp] theorem withOutcome_formula (cell : Cell) (outcome : Outcome) :
    (cell.withOutcome outcome).formula = cell.formula := rfl

@[simp] theorem withOutcome_outcome (cell : Cell) (outcome : Outcome) :
    (cell.withOutcome outcome).outcome = outcome := rfl

@[simp] theorem withOutcome_withOutcome (cell : Cell) (first second : Outcome) :
    (cell.withOutcome first).withOutcome second = cell.withOutcome second := rfl

end Cell

namespace Sheet

/-- The formula at an address. -/
def formula? (sheet : Sheet) (address : Address) : Option (List String) :=
  (sheet.cell? address).map Cell.formula

/-! ## Entries -/

/-- The entries are the cells with their addresses. -/
@[simp] theorem mem_entries {sheet : Sheet} {address : Address} {cell : Cell} :
    (address, cell) ∈ sheet.entries ↔ sheet.cell? address = some cell :=
  Std.TreeMap.mem_toList_iff_getElem?_eq_some

/-- Entries are listed row by row. -/
theorem pairwise_entries (sheet : Sheet) :
    sheet.entries.Pairwise fun left right => compare left.1 right.1 = .lt :=
  Std.TreeMap.ordered_keys_toList

/-- The addresses are those that hold a cell. -/
theorem mem_addresses {sheet : Sheet} {address : Address} :
    address ∈ sheet.addresses ↔ sheet.holds address = true :=
  Std.TreeMap.mem_keys.trans Std.TreeMap.contains_iff_mem.symm

/-- An address that holds a cell has one to look up. -/
theorem holds_iff {sheet : Sheet} {address : Address} :
    sheet.holds address = true ↔ ∃ cell, sheet.cell? address = some cell := by
  rw [holds, Std.TreeMap.contains_eq_isSome_getElem?, Option.isSome_iff_exists]
  rfl

/-- There is no cell to look up at an address that holds none. -/
theorem cell?_eq_none_of_not_holds {sheet : Sheet} {address : Address}
    (missing : ¬ sheet.holds address = true) : sheet.cell? address = none := by
  rw [Option.eq_none_iff_forall_ne_some]
  intro cell held
  exact missing (holds_iff.mpr ⟨cell, held⟩)

/-- Entries are determined by what is looked up. -/
theorem entries_ext {left right : Sheet}
    (alike : ∀ address, left.cell? address = right.cell? address) :
    left.entries = right.entries :=
  (Std.TreeMap.Equiv.of_forall_constGet?_eq alike).toList_eq

/-! ## Operations -/

@[simp] theorem cell?_empty (address : Address) : empty.cell? address = none :=
  Std.TreeMap.getElem?_emptyc

/-- Storing a cell changes what is stored at its address, and nothing else. -/
theorem cell?_put (sheet : Sheet) (address other : Address) (cell : Cell) :
    (sheet.put address cell).cell? other =
      if address = other then some cell else sheet.cell? other := by
  simp only [cell?, put, Std.TreeMap.getElem?_insert, Std.compare_eq_iff_eq]

/-- Storing an outcome changes the outcome of the cell at the address, if there is one, and nothing
else. -/
theorem cell?_setOutcome (sheet : Sheet) (address other : Address) (outcome : Outcome) :
    (sheet.setOutcome address outcome).2.cell? other =
      if address = other then (sheet.cell? other).map (·.withOutcome outcome)
      else sheet.cell? other := by
  simp only [cell?, setOutcome, Std.TreeMap.getElem?_modify, Std.compare_eq_iff_eq]
  split
  · rename_i same
    rw [same]
  · rfl

/-- Removing an address leaves no cell there and keeps the others. -/
theorem cell?_removeAt (sheet : Sheet) (address other : Address) :
    (sheet.removeAt address).cell? other =
      if address = other then none else sheet.cell? other := by
  unfold removeAt
  split
  · simp only [cell?, Std.TreeMap.getElem?_erase, Std.compare_eq_iff_eq]
  · rename_i missing
    split
    · rename_i same
      rw [← same]
      exact cell?_eq_none_of_not_holds missing
    · rfl

@[simp] theorem cell?_clearDirty (sheet : Sheet) (address : Address) :
    sheet.clearDirty.cell? address = sheet.cell? address := rfl

/-! ## Dirty addresses -/

/-- The list of dirty addresses has exactly the dirty addresses. -/
theorem mem_dirtyAddresses {sheet : Sheet} {address : Address} :
    address ∈ sheet.dirtyAddresses ↔ address ∈ sheet.dirty :=
  Std.TreeSet.mem_toList

@[simp] theorem dirtyAddresses_clearDirty (sheet : Sheet) :
    sheet.clearDirty.dirtyAddresses = [] := rfl

/-- Storing a cell makes its address dirty, and no other. -/
theorem mem_dirty_put {sheet : Sheet} {address other : Address} {cell : Cell} :
    other ∈ (sheet.put address cell).dirty ↔ address = other ∨ other ∈ sheet.dirty := by
  simp only [put, Std.TreeSet.mem_insert, Std.compare_eq_iff_eq]

/-- Removing an address that holds no cell changes nothing. -/
theorem removeAt_of_not_holds {sheet : Sheet} {address : Address}
    (missing : sheet.holds address = false) : sheet.removeAt address = sheet :=
  if_neg (Bool.not_eq_true _ ▸ missing)

/-- Removing an address with no cell to look up changes nothing. -/
theorem removeAt_of_vacant {sheet : Sheet} {address : Address}
    (vacant : sheet.cell? address = none) : sheet.removeAt address = sheet := by
  refine removeAt_of_not_holds (Bool.eq_false_iff.mpr fun holds => ?_)
  obtain ⟨cell, held⟩ := holds_iff.mp holds
  cases vacant.symm.trans held

/-- Removing a cell makes its address dirty, and no other. -/
theorem mem_dirty_removeAt {sheet : Sheet} {address other : Address}
    (holds : sheet.holds address = true) :
    other ∈ (sheet.removeAt address).dirty ↔ address = other ∨ other ∈ sheet.dirty := by
  rw [removeAt, if_pos holds, Std.TreeSet.mem_insert, Std.compare_eq_iff_eq]

end Sheet

end Spreadsheet
