import Spreadsheet.Address.Basic
import Spreadsheet.Dependency.Search
import Spreadsheet.Dependency.Traversal
import Std.Data.TreeMap

/-!
# Which cell reads which

An edge leads from a precedent to the dependent that reads it. The graph keeps each
edge under both of its ends, so it can be walked in either direction. From it come
the order in which cells are calculated again after a change, and the cells that
read themselves through a cycle.
-/

namespace Spreadsheet

namespace Dependency

/-- Neighbours by address; an address without an entry has none. -/
abbrev Neighbours := Std.TreeMap Address (List Address)

namespace Neighbours

/-- The neighbours of an address. -/
def of (neighbours : Neighbours) (address : Address) : List Address :=
  neighbours.getD address []

/-- One more neighbour of an address, unless it is known. -/
def add (neighbours : Neighbours) (address neighbour : Address) : Neighbours :=
  if neighbour ∈ neighbours.of address then neighbours
  else neighbours.insert address (neighbours.of address ++ [neighbour])

/-- What one addition does to the neighbours. -/
theorem mem_of_add (neighbours : Neighbours) (address neighbour other reached : Address) :
    reached ∈ (neighbours.add address neighbour).of other ↔
      reached ∈ neighbours.of other ∨ (other = address ∧ reached = neighbour) := by
  unfold add
  split
  · rename_i known
    constructor
    · exact Or.inl
    · rintro (old | ⟨rfl, rfl⟩)
      · exact old
      · exact known
  · simp only [of, Std.TreeMap.getD_insert, Std.compare_eq_iff_eq]
    by_cases same : address = other
    · subst same
      simp
    · simp [same, Ne.symm same]

end Neighbours

/-- The edges of a reference graph, under their precedents and under their dependents. -/
structure Graph where
  dependents : Neighbours := ∅
  precedents : Neighbours := ∅

namespace Graph

/-- The graph without edges. -/
def empty : Graph := {}

/-- One more edge: `dependent` reads `precedent`. -/
def add (graph : Graph) (precedent dependent : Address) : Graph where
  dependents := graph.dependents.add precedent dependent
  precedents := graph.precedents.add dependent precedent

/-- The graph of a list of edges, each a precedent and its dependent. -/
def ofEdges (edges : List (Address × Address)) : Graph :=
  edges.foldl (fun graph edge => graph.add edge.1 edge.2) empty

/-- The cells that read a cell. -/
def dependentsOf (graph : Graph) (address : Address) : List Address :=
  graph.dependents.of address

/-- The cells that a cell reads. -/
def precedentsOf (graph : Graph) (address : Address) : List Address :=
  graph.precedents.of address

/-- The changed cells and everything that reads them, directly or not, each after the
cells that it reads. `dependentsOf` says in which order dependents are looked at; edges
that close a cycle put no order on the cells of that cycle. -/
def orderBy (graph : Graph) (dependentsOf : Address → List Address) (changed : List Address) :
    List Address :=
  Traversal.visitAll dependentsOf graph.dependents.keys changed

/-- The order in which cells are calculated again after a change. -/
def recalculationOrder (graph : Graph) (changed : List Address) : List Address :=
  graph.orderBy graph.dependentsOf changed

/-- Whether a cell reads itself, directly or through others. `precedentsOf` says in which
order precedents are looked at. -/
def isCircularBy (graph : Graph) (precedentsOf : Address → List Address) (address : Address) :
    Bool :=
  (Traversal.Search.among precedentsOf graph.precedents.keys address (precedentsOf address)).found

/-- Whether a cell reads itself, directly or through others. -/
def isCircular (graph : Graph) (address : Address) : Bool :=
  graph.isCircularBy graph.precedentsOf address

end Graph

end Dependency

end Spreadsheet
