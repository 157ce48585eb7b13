import Spreadsheet.Proofs.Sheet.Reports
import Std.Data.HashMap

/-!
# What an evaluation sees of its store

An evaluation asks its store for nothing but what the references of the formula resolve to.
Stores differ in how they look a label up: a sheet reads it as an address, a map compares it as
text. On canonical labels both come to the same cell, provided the map holds the cells of the
sheet under the labels of their addresses; what it holds under other texts is out of reach.
`evaluate_sees_references` states the two together.
-/

namespace Spreadsheet

/-- A label that is the canonical label of the address that it names. -/
def Address.IsCanonicalLabel (label : String) : Prop :=
  ∃ address, ofLabel label = .ok address ∧ address.label = label

namespace Store

/-- The store that looks a label up by its exact text in a hash map. -/
def ofHashedNames (names : Std.HashMap String Cell) : Store :=
  fun label => names[label]?

/-- The store answers the canonical label of each address as the sheet answers the address. -/
def Mirrors (store : Store) (sheet : Sheet) : Prop :=
  ∀ address : Address, store address.label = sheet.cell? address

variable {store : Store} {sheet : Sheet}

/-- The sheet itself looks a canonical label up in the same way. -/
theorem Mirrors.eq_store (mirrors : store.Mirrors sheet) {label : String}
    (canonical : Address.IsCanonicalLabel label) : store label = sheet.store label := by
  obtain ⟨address, named, isLabel⟩ := canonical
  rw [Sheet.store, Address.ofLabel?, named, ← isLabel]
  exact mirrors address

/-- A formula in canonical spelling evaluates alike. -/
theorem Mirrors.evaluate_eq (mirrors : store.Mirrors sheet) {tokens : List Token}
    (canonical : ∀ label ∈ Formula.references tokens, Address.IsCanonicalLabel label) :
    Formula.evaluate store tokens = Formula.evaluate sheet.store tokens := by
  refine Formula.evaluate_congr_of_resolve fun label refers => ?_
  rw [resolve, resolve, mirrors.eq_store (canonical label refers)]

end Store

namespace Formula

/-- Stores that resolve the references of a formula alike give it the same outcome, whatever else
sets them apart. A map that holds the cells of a sheet under their canonical labels therefore
evaluates every formula whose references are spelled canonically as the sheet does, be it an
ordered map or a hash map, and for every sheet there is such a map. -/
theorem evaluate_sees_references :
    (∀ (left right : Store) (tokens : List Token),
      (∀ label ∈ references tokens, left.resolve label = right.resolve label) →
        evaluate left tokens = evaluate right tokens) ∧
    ∀ (sheet : Sheet) (tokens : List Token),
      (∀ label ∈ references tokens, Address.IsCanonicalLabel label) →
        (∀ names : Store.Names,
          (∀ address : Address, names[address.label]? = sheet.cell? address) →
            evaluate (.ofNames names) tokens = evaluate sheet.store tokens) ∧
        (∀ names : Std.HashMap String Cell,
          (∀ address : Address, names[address.label]? = sheet.cell? address) →
            evaluate (.ofHashedNames names) tokens = evaluate sheet.store tokens) ∧
        evaluate (.ofNames sheet.byLabel) tokens = evaluate sheet.store tokens := by
  constructor
  · intro left right tokens alike
    exact evaluate_congr_of_resolve alike
  · intro sheet tokens canonical
    refine ⟨fun names same => ?_, fun names same => ?_, ?_⟩
    · have mirrors : (Store.ofNames names).Mirrors sheet := same
      exact mirrors.evaluate_eq canonical
    · have mirrors : (Store.ofHashedNames names).Mirrors sheet := same
      exact mirrors.evaluate_eq canonical
    · have mirrors : (Store.ofNames sheet.byLabel).Mirrors sheet := Sheet.getElem?_byLabel_label
      exact mirrors.evaluate_eq canonical

/-- Two stores with different cells throughout resolve the references alike: one has another
formula with the same value, and a cell without a formula where the other has none. A hash map
stands beside the sheet with the same cell. -/
theorem evaluate_sees_references_other_cells :
    let tokens : List Token := [.reference "A1", .operator .add, .reference "B1"]
    let left : Store := fun label =>
      if label = "A1" then some ⟨["2"], .ok 2.0⟩ else none
    let right : Store := fun label =>
      if label = "A1" then some ⟨["1", "+", "1"], .ok 2.0⟩ else some ⟨[], .ok 5.0⟩
    let cell : Cell := ⟨["2"], .ok 2.0⟩
    let sheet : Sheet := Sheet.empty.put ⟨0, 0⟩ cell
    let names : Std.HashMap String Cell := (∅ : Std.HashMap String Cell).insert "A1" cell
    (∀ label ∈ references tokens, left.resolve label = right.resolve label) ∧
    evaluate left tokens = evaluate right tokens ∧
    (∀ label ∈ references tokens, Address.IsCanonicalLabel label) ∧
    (∀ address : Address, names[address.label]? = sheet.cell? address) ∧
    evaluate (.ofHashedNames names) tokens = evaluate sheet.store tokens ∧
    evaluate (.ofNames sheet.byLabel) tokens = evaluate sheet.store tokens := by
  intro tokens left right cell sheet names
  obtain ⟨general, ofSheet⟩ := evaluate_sees_references
  have listed : references tokens = ["A1", "B1"] := rfl
  have alike : ∀ label ∈ references tokens, left.resolve label = right.resolve label := by
    rw [listed]
    exact List.forall_mem_cons.mpr ⟨rfl, List.forall_mem_singleton.mpr rfl⟩
  have canonical : ∀ label ∈ references tokens, Address.IsCanonicalLabel label := by
    have first : Address.IsCanonicalLabel "A1" := ⟨⟨0, 0⟩, by decide +kernel, by decide +kernel⟩
    have second : Address.IsCanonicalLabel "B1" := ⟨⟨0, 1⟩, by decide +kernel, by decide +kernel⟩
    rw [listed]
    exact List.forall_mem_cons.mpr ⟨first, List.forall_mem_singleton.mpr second⟩
  have same : ∀ address : Address, names[address.label]? = sheet.cell? address := by
    intro address
    have origin : (⟨0, 0⟩ : Address).label = "A1" := by decide +kernel
    rw [Std.HashMap.getElem?_insert, Sheet.cell?_put, ← origin]
    simp [Address.label_injective.eq_iff]
  obtain ⟨-, hashed, byLabel⟩ := ofSheet sheet tokens canonical
  exact ⟨alike, general left right tokens alike, canonical, same, hashed names same, byLabel⟩

end Formula

end Spreadsheet
