import Spreadsheet.Proofs.Sheet.Cells

/-!
# The formulas of a sheet

What each operation on a sheet does to its formulas. `formulas` lists them, and
`ofFormulas` builds a sheet that holds given formulas and has never been calculated.
-/

namespace Spreadsheet

namespace Sheet

/-- The formulas with their addresses, row by row. -/
def formulas (sheet : Sheet) : List (Address × List String) :=
  sheet.entries.map fun (address, cell) => (address, cell.formula)

/-- The sheet that is given formulas in turn and nothing else. -/
def ofFormulas (formulas : List (Address × List String)) : Sheet :=
  formulas.foldl (fun sheet (address, formula) => sheet.setFormulaAt address formula) empty

/-! ## Lists of formulas -/

/-- The formulas of a sheet are those that its cells have. -/
theorem mem_formulas {sheet : Sheet} {address : Address} {formula : List String} :
    (address, formula) ∈ sheet.formulas ↔ sheet.formula? address = some formula := by
  rw [formulas, List.mem_map, formula?, Option.map_eq_some_iff]
  constructor
  · rintro ⟨⟨other, cell⟩, listed, equal⟩
    cases equal
    exact ⟨cell, mem_entries.mp listed, rfl⟩
  · rintro ⟨cell, held, rfl⟩
    exact ⟨(address, cell), mem_entries.mpr held, rfl⟩

/-- The formulas stand at the addresses of the sheet. -/
theorem map_fst_formulas (sheet : Sheet) : sheet.formulas.map Prod.fst = sheet.addresses := by
  rw [formulas, List.map_map]
  exact Std.TreeMap.map_fst_toList_eq_keys

/-- No address has two formulas. -/
theorem nodup_formulas (sheet : Sheet) : (sheet.formulas.map Prod.fst).Nodup := by
  rw [map_fst_formulas]
  exact Std.TreeMap.nodup_keys

/-- The list of formulas is determined by the formula at every address. -/
theorem formulas_ext {left right : Sheet}
    (same : ∀ address, left.formula? address = right.formula? address) :
    left.formulas = right.formulas := by
  have listed (sheet : Sheet) :
      sheet.formulas = (sheet.cells.map fun _ cell => cell.formula).toList := by
    rw [Std.TreeMap.toList_map]
    rfl
  rw [listed, listed]
  refine (Std.TreeMap.Equiv.of_forall_constGet?_eq fun address => ?_).toList_eq
  rw [Std.TreeMap.getElem?_map, Std.TreeMap.getElem?_map]
  exact same address

/-- Sheets with the same formulas hold cells at the same addresses. -/
theorem holds_congr {left right : Sheet} {address : Address}
    (same : left.formula? address = right.formula? address) :
    left.holds address = right.holds address := by
  have found (sheet : Sheet) : sheet.holds address = (sheet.formula? address).isSome := by
    rw [formula?, Option.isSome_map]
    exact Std.TreeMap.contains_eq_isSome_getElem?
  rw [found, found, same]

/-- Sheets with the same formulas list the same addresses. -/
theorem addresses_congr {left right : Sheet}
    (same : ∀ address, left.formula? address = right.formula? address) :
    left.addresses = right.addresses := by
  rw [← map_fst_formulas, ← map_fst_formulas, formulas_ext same]

/-- Sheets with the same formulas have equally many cells. -/
theorem size_congr {left right : Sheet}
    (same : ∀ address, left.formula? address = right.formula? address) :
    left.size = right.size := by
  have counted (sheet : Sheet) : sheet.size = sheet.formulas.length := by
    rw [formulas, List.length_map]
    exact Std.TreeMap.length_toList.symm
  rw [counted, counted, formulas_ext same]

/-! ## Formulas after an edit -/

/-- Storing a cell changes the formula at its address, and no other. -/
theorem formula?_put (sheet : Sheet) (address other : Address) (cell : Cell) :
    (sheet.put address cell).formula? other =
      if address = other then some cell.formula else sheet.formula? other := by
  rw [formula?, cell?_put]
  split <;> rfl

/-- Removing an address leaves no formula there and keeps the others. -/
theorem formula?_removeAt (sheet : Sheet) (address other : Address) :
    (sheet.removeAt address).formula? other =
      if address = other then none else sheet.formula? other := by
  rw [formula?, cell?_removeAt]
  split <;> rfl

/-- Storing an outcome keeps all formulas. -/
theorem formula?_setOutcome (sheet : Sheet) (address other : Address) (outcome : Outcome) :
    (sheet.setOutcome address outcome).2.formula? other = sheet.formula? other := by
  rw [formula?, cell?_setOutcome]
  split
  · rw [Option.map_map]
    rfl
  · rfl

/-- Setting the formulas of a list, no address twice, gives each address its formula. -/
theorem formula?_foldl_setFormulaAt {entries : List (Address × List String)} (sheet : Sheet)
    (nodup : (entries.map Prod.fst).Nodup) {address : Address} {formula : List String} :
    (entries.foldl (fun sheet (address, formula) => sheet.setFormulaAt address formula)
        sheet).formula? address = some formula ↔
      (address, formula) ∈ entries ∨
        (address ∉ entries.map Prod.fst ∧ sheet.formula? address = some formula) := by
  induction entries generalizing sheet with
  | nil => simp
  | cons entry entries inductionHypothesis =>
    obtain ⟨first, firstFormula⟩ := entry
    obtain ⟨unlisted, laterNodup⟩ := List.nodup_cons.mp nodup
    have edited : (sheet.setFormulaAt first firstFormula).formula? address =
        if first = address then some firstFormula else sheet.formula? address :=
      sheet.formula?_put first address _
    rw [List.foldl_cons, inductionHypothesis _ laterNodup, edited, List.mem_cons, List.map_cons,
      List.mem_cons]
    by_cases same : first = address
    · subst same
      have later : (first, formula) ∉ entries := fun member =>
        unlisted (List.mem_map.mpr ⟨(first, formula), member, rfl⟩)
      simp [later, unlisted, eq_comm]
    · simp [same, Ne.symm same]

/-- A sheet made of the formulas of another has the same formulas. -/
theorem formula?_ofFormulas (sheet : Sheet) (address : Address) :
    (ofFormulas sheet.formulas).formula? address = sheet.formula? address := by
  refine Option.ext fun formula => ?_
  rw [ofFormulas, formula?_foldl_setFormulaAt _ sheet.nodup_formulas, mem_formulas]
  simp [formula?]

end Sheet

end Spreadsheet
