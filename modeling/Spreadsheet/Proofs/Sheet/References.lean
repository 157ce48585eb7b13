import Spreadsheet.Proofs.Dependency.Graph
import Spreadsheet.Proofs.Formula.Dependence
import Spreadsheet.Proofs.Sheet.Cells
import Spreadsheet.Sheet.Calculation

/-!
# Which cell depends on which

`Reads` is the relation of a cell to the addresses in its formula; dependence and
cycles are its closures. They are determined by the formulas that a cell depends on.
The reference graph, the circular addresses and the calculation orders of a sheet are
characterized in these terms.
-/

namespace Spreadsheet.Sheet

/-- The formula of one cell refers to an address. -/
def Reads (sheet : Sheet) (reader precedent : Address) : Prop :=
  ∃ cell, sheet.cell? reader = some cell ∧ precedent ∈ cell.precedents

/-- One address is the other, or reads it, directly or through others. -/
def DependsOn (sheet : Sheet) : Address → Address → Prop :=
  Relation.ReflTransGen sheet.Reads

/-- A cell reads itself, directly or through others. -/
def OnCycle (sheet : Sheet) (address : Address) : Prop :=
  Relation.TransGen sheet.Reads address address

/-- A calculation with the given options reaches the address from where it starts. -/
def Affected (sheet : Sheet) (options : CalculationOptions) (address : Address) : Prop :=
  ∃ start ∈ sheet.selectedAddresses options, sheet.DependsOn address start

section Relations

variable {sheet : Sheet} {address precedent : Address}

/-- A cell is on a cycle if one of the cells it depends on reads it. -/
theorem onCycle_iff :
    sheet.OnCycle address ↔
      ∃ reader, sheet.DependsOn address reader ∧ sheet.Reads reader address :=
  Relation.TransGen.tail'_iff

/-- A cell that reads one that depends on it is on a cycle. -/
theorem onCycle_of_reads (reads : sheet.Reads address precedent)
    (back : sheet.DependsOn precedent address) : sheet.OnCycle address :=
  Relation.TransGen.head' reads back

/-- Only cells read. -/
theorem Reads.holds (reads : sheet.Reads address precedent) : sheet.holds address = true := by
  obtain ⟨cell, held, -⟩ := reads
  exact holds_iff.mpr ⟨cell, held⟩

/-- Only cells are on cycles. -/
theorem OnCycle.holds (onCycle : sheet.OnCycle address) : sheet.holds address = true := by
  obtain ⟨reader, reads, -⟩ := Relation.TransGen.head'_iff.mp onCycle
  exact reads.holds

/-- A reference in a formula names an address that the cell reads. -/
theorem reads_of_mem_references {cell : Cell} (held : sheet.cell? address = some cell)
    {label : String} (refers : label ∈ Formula.references (Formula.classify cell.formula)) :
    ∃ precedent, Address.ofLabel? label = some precedent ∧ sheet.Reads address precedent := by
  obtain ⟨precedent, named⟩ :=
    Option.isSome_iff_exists.mp (Formula.isLabel_of_mem_references refers)
  exact ⟨precedent, named, cell, held, List.mem_filterMap.mpr ⟨label, refers, named⟩⟩

/-- A cell that is put reads what its own formula names, and no other cell reads anything
else than before. -/
theorem reads_put {cell : Cell} {reader : Address} :
    (sheet.put address cell).Reads reader precedent ↔
      if address = reader then precedent ∈ cell.precedents else sheet.Reads reader precedent := by
  rw [Reads, cell?_put]
  split <;> simp [Reads]

/-- Where no cell reads, nothing depends but the address itself. -/
theorem DependsOn.ne_of_unread {start : Address} (depends : sheet.DependsOn start address)
    (unread : ∀ reader, ¬ sheet.Reads reader precedent) (different : start ≠ precedent) :
    address ≠ precedent := by
  cases depends with
  | refl => exact different
  | tail _ reads => exact fun same => unread _ (same ▸ reads)

/-- Whatever reads an affected address is affected. -/
theorem Affected.of_dependsOn {options : CalculationOptions}
    (affected : sheet.Affected options precedent) (depends : sheet.DependsOn address precedent) :
    sheet.Affected options address := by
  obtain ⟨start, selected, further⟩ := affected
  exact ⟨start, selected, depends.trans further⟩

end Relations

/-! ## Dependence is a matter of formulas -/

section Congruence

variable {left right : Sheet} {address : Address}

/-- What is read at an address is decided by the formula there. -/
theorem reads_congr (same : left.formula? address = right.formula? address) (precedent : Address) :
    left.Reads address precedent ↔ right.Reads address precedent := by
  have oneWay {first second : Sheet} (same : first.formula? address = second.formula? address)
      (reads : first.Reads address precedent) : second.Reads address precedent := by
    obtain ⟨cell, held, refers⟩ := reads
    rw [formula?, held, Option.map_some] at same
    obtain ⟨other, otherHeld, sameFormula⟩ := Option.map_eq_some_iff.mp same.symm
    refine ⟨other, otherHeld, ?_⟩
    rwa [Cell.precedents, sameFormula]
  exact ⟨oneWay same, oneWay same.symm⟩

/-- Sheets with the same formulas in what an address depends on agree on what that is. -/
theorem dependsOn_congr
    (same : ∀ other, left.DependsOn address other → left.formula? other = right.formula? other)
    (other : Address) : left.DependsOn address other ↔ right.DependsOn address other := by
  constructor
  · intro depends
    induction depends with
    | refl => exact .refl
    | tail before reads inductionHypothesis =>
      exact inductionHypothesis.tail ((reads_congr (same _ before) _).mp reads)
  · intro depends
    induction depends with
    | refl => exact .refl
    | tail _ reads inductionHypothesis =>
      exact inductionHypothesis.tail ((reads_congr (same _ inductionHypothesis) _).mpr reads)

/-- Whether a cell is on a cycle is decided by the formulas of what it depends on. -/
theorem onCycle_congr
    (same : ∀ other, left.DependsOn address other → left.formula? other = right.formula? other) :
    left.OnCycle address ↔ right.OnCycle address := by
  rw [onCycle_iff, onCycle_iff]
  refine exists_congr fun reader => ?_
  rw [dependsOn_congr same reader, and_congr_right_iff]
  intro depends
  exact reads_congr (same reader ((dependsOn_congr same reader).mpr depends)) address

end Congruence

/-! ## The reference graph -/

section Graph

variable {sheet : Sheet}

/-- The references of a sheet are the pairs of a cell and what it reads. -/
theorem mem_references {reader precedent : Address} :
    (precedent, reader) ∈ sheet.references ↔ sheet.Reads reader precedent := by
  rw [references, List.mem_flatMap]
  constructor
  · rintro ⟨⟨address, cell⟩, listed, edge⟩
    obtain ⟨other, refers, equal⟩ := List.mem_map.mp edge
    cases equal
    exact ⟨cell, mem_entries.mp listed, refers⟩
  · rintro ⟨cell, held, refers⟩
    exact ⟨(reader, cell), mem_entries.mpr held, List.mem_map_of_mem refers⟩

/-- What an address depends on stays within any list that holds, with the reader, the
precedent of every reference. -/
theorem DependsOn.mem_of_closed {listed : List Address} {address other : Address}
    (depends : sheet.DependsOn address other)
    (closed : ∀ edge ∈ sheet.references, edge.2 ∈ listed → edge.1 ∈ listed)
    (member : address ∈ listed) : other ∈ listed := by
  induction depends with
  | refl => exact member
  | tail _ reads readerListed => exact closed _ (mem_references.mpr reads) readerListed

/-- The dependents of an address in the graph are the cells that read it. -/
theorem mem_dependentsOf_graph {reader precedent : Address} :
    reader ∈ sheet.graph.dependentsOf precedent ↔ sheet.Reads reader precedent :=
  Dependency.Graph.mem_dependentsOf_ofEdges.trans mem_references

/-- The precedents of an address in the graph are what it reads. -/
theorem mem_precedentsOf_graph {reader precedent : Address} :
    precedent ∈ sheet.graph.precedentsOf reader ↔ sheet.Reads reader precedent :=
  Dependency.Graph.mem_precedentsOf_ofEdges.trans mem_references

/-- A search along dependents comes from a cell to those that depend on it. -/
theorem reaches_graph_iff {start address : Address} :
    Dependency.Traversal.Reaches sheet.graph.dependentsOf start address ↔
      sheet.DependsOn address start := by
  have reversed : (fun precedent reader => reader ∈ sheet.graph.dependentsOf precedent) =
      Function.swap sheet.Reads := by
    funext precedent reader
    exact propext mem_dependentsOf_graph
  rw [Dependency.Traversal.Reaches, reversed, Relation.reflTransGen_swap]
  rfl

/-- A cell is circular exactly if it is on a cycle. -/
theorem mem_circularAddresses {address : Address} :
    address ∈ sheet.circularAddresses ↔ sheet.OnCycle address := by
  have reading : (fun reader precedent => precedent ∈ sheet.graph.precedentsOf reader) =
      sheet.Reads := by
    funext reader precedent
    exact propext mem_precedentsOf_graph
  rw [circularAddresses, List.mem_filter, mem_addresses, Dependency.Graph.isCircular_iff, reading]
  exact and_iff_right_of_imp OnCycle.holds

end Graph

/-! ## Calculation orders -/

/-- Exactly the cells that a calculation affects, each once and after the cells that it
reads unless it is on a cycle. -/
structure IsCalculationOrder (sheet : Sheet) (options : CalculationOptions)
    (order : List Address) : Prop where
  nodup : order.Nodup
  mem_iff : ∀ address, address ∈ order ↔
    sheet.holds address = true ∧ sheet.Affected options address
  ordered : order.Pairwise fun earlier later => sheet.Reads earlier later → sheet.OnCycle earlier

/-- The order of a calculation is one of these however dependents are enumerated. -/
theorem isCalculationOrder_calculationOrder {sheet : Sheet}
    {dependentsOf : Address → List Address} (enumerates : sheet.graph.Enumerates dependentsOf)
    (options : CalculationOptions) :
    sheet.IsCalculationOrder options (sheet.calculationOrder dependentsOf options) where
  nodup := (Dependency.Graph.nodup_orderBy enumerates _).filter _
  mem_iff address := by
    rw [calculationOrder, List.mem_filter, Dependency.Graph.mem_orderBy_iff enumerates, and_comm]
    simp only [reaches_graph_iff, Affected]
  ordered := by
    refine ((Dependency.Graph.pairwise_orderBy enumerates _).filter _).imp ?_
    intro earlier later around reads
    exact onCycle_of_reads reads (reaches_graph_iff.mp (around (mem_dependentsOf_graph.mpr reads)))

/-- The order in which the graph itself lists dependents is one of those that results hold for. -/
theorem enumerates_dependentsOf (sheet : Sheet) :
    sheet.graph.Enumerates sheet.graph.dependentsOf :=
  fun _ _ => Iff.rfl

end Spreadsheet.Sheet
