import Spreadsheet.Dependency.Graph
import Spreadsheet.Proofs.Dependency.Search

/-!
# Orders and cycles of a reference graph

A graph records its edges and nothing else, in both directions. Recalculation lists
the changed cells and their dependents, each once and after what it reads, whatever
the order in which dependents are looked at; a cell is circular exactly if a path of
edges leads from it back to itself.
-/

namespace Spreadsheet.Dependency

namespace Neighbours

/-- The neighbours after a list of additions, each an address and its neighbour. -/
def addAll (neighbours : Neighbours) (edges : List (Address × Address)) : Neighbours :=
  edges.foldl (fun neighbours edge => neighbours.add edge.1 edge.2) neighbours

/-- Adding edges adds to the neighbours of an address those that the edges give it. -/
theorem mem_of_addAll (edges : List (Address × Address)) (neighbours : Neighbours)
    (address neighbour : Address) :
    neighbour ∈ (neighbours.addAll edges).of address ↔
      neighbour ∈ neighbours.of address ∨ (address, neighbour) ∈ edges := by
  induction edges generalizing neighbours with
  | nil => simp [addAll]
  | cons edge edges inductionHypothesis =>
    rw [addAll, List.foldl_cons, ← addAll, inductionHypothesis, mem_of_add, List.mem_cons,
      or_assoc, Prod.ext_iff]

/-- The neighbours of an address are those that the edges give it. -/
theorem mem_of_addAll_empty (edges : List (Address × Address)) (address neighbour : Address) :
    neighbour ∈ (addAll ∅ edges).of address ↔ (address, neighbour) ∈ edges := by
  rw [mem_of_addAll]
  exact or_iff_right fun member => by cases member

/-- An address without an entry has no neighbours. -/
theorem of_eq_nil {neighbours : Neighbours} {address : Address}
    (missing : address ∉ neighbours.keys) : neighbours.of address = [] :=
  Std.TreeMap.getD_eq_fallback fun member => missing (Std.TreeMap.mem_keys.mpr member)

/-- Whoever enumerates the neighbours that are kept finds none without an entry. -/
theorem eq_nil_of_enumerates {neighbours : Neighbours} {enumerate : Address → List Address}
    (enumerates : ∀ address neighbour,
      neighbour ∈ enumerate address ↔ neighbour ∈ neighbours.of address)
    {address : Address} (missing : address ∉ neighbours.keys) : enumerate address = [] := by
  rw [List.eq_nil_iff_forall_not_mem]
  intro neighbour member
  have kept := (enumerates address neighbour).mp member
  rw [of_eq_nil missing] at kept
  cases kept

end Neighbours

namespace Graph

open Traversal

/-! ## Edges -/

/-- A graph of edges holds them under their first ends and, turned around, under their
second ends. -/
theorem ofEdges_eq (edges : List (Address × Address)) :
    ofEdges edges =
      { dependents := Neighbours.addAll ∅ edges
        precedents := Neighbours.addAll ∅ (edges.map Prod.swap) } := by
  have generalized (graph : Graph) :
      edges.foldl (fun graph edge => graph.add edge.1 edge.2) graph =
        { dependents := graph.dependents.addAll edges
          precedents := graph.precedents.addAll (edges.map Prod.swap) } := by
    induction edges generalizing graph with
    | nil => rfl
    | cons edge edges inductionHypothesis => rw [List.foldl_cons, inductionHypothesis]; rfl
  exact generalized empty

/-- The dependents of an address are those that the edges give it. -/
theorem mem_dependentsOf_ofEdges {edges : List (Address × Address)}
    {precedent dependent : Address} :
    dependent ∈ (ofEdges edges).dependentsOf precedent ↔ (precedent, dependent) ∈ edges := by
  rw [ofEdges_eq]
  exact Neighbours.mem_of_addAll_empty edges precedent dependent

/-- The precedents of an address are those that the edges give it. -/
theorem mem_precedentsOf_ofEdges {edges : List (Address × Address)}
    {precedent dependent : Address} :
    precedent ∈ (ofEdges edges).precedentsOf dependent ↔ (precedent, dependent) ∈ edges := by
  rw [ofEdges_eq]
  refine (Neighbours.mem_of_addAll_empty _ dependent precedent).trans ?_
  rw [List.mem_map]
  constructor
  · rintro ⟨edge, member, swapped⟩
    cases swapped
    exact member
  · intro member
    exact ⟨(precedent, dependent), member, rfl⟩

/-! ## The order of a recalculation -/

section Order

variable {graph : Graph} {enumerate : Address → List Address}

/-- Dependents are enumerated, in whatever order. -/
def Enumerates (graph : Graph) (enumerate : Address → List Address) : Prop :=
  ∀ precedent dependent, dependent ∈ enumerate precedent ↔ dependent ∈ graph.dependentsOf precedent

/-- Every address that has dependents is a key of the graph. -/
theorem Enumerates.complete (enumerates : graph.Enumerates enumerate) (address : Address)
    (missing : address ∉ graph.dependents.keys) : enumerate address = [] :=
  Neighbours.eq_nil_of_enumerates enumerates missing

/-- Where one cell leads does not depend on the order of enumeration. -/
theorem Enumerates.reaches_iff (enumerates : graph.Enumerates enumerate) (start address : Address) :
    Reaches enumerate start address ↔ Reaches graph.dependentsOf start address := by
  constructor
  · exact Relation.ReflTransGen.mono
      (fun precedent dependent => (enumerates precedent dependent).mp)
      start address
  · exact Relation.ReflTransGen.mono
      (fun precedent dependent => (enumerates precedent dependent).mpr)
      start address

/-- The order holds the changed cells and what reads them, directly or not. -/
theorem mem_orderBy_iff (enumerates : graph.Enumerates enumerate) (changed : List Address)
    (address : Address) :
    address ∈ graph.orderBy enumerate changed ↔
      ∃ start ∈ changed, Reaches graph.dependentsOf start address := by
  simp only [orderBy, mem_visitAll_iff enumerates.complete, enumerates.reaches_iff]

/-- No address is listed twice. -/
theorem nodup_orderBy (enumerates : graph.Enumerates enumerate) (changed : List Address) :
    (graph.orderBy enumerate changed).Nodup :=
  nodup_visitAll enumerates.complete changed

/-- A cell stands before one that it reads only if that cell reads it in turn. -/
theorem pairwise_orderBy (enumerates : graph.Enumerates enumerate) (changed : List Address) :
    (graph.orderBy enumerate changed).Pairwise fun earlier later =>
      earlier ∈ graph.dependentsOf later → Reaches graph.dependentsOf earlier later := by
  refine (pairwise_visitAll enumerates.complete changed).imp ?_
  intro earlier later around isDependent
  rw [← enumerates.reaches_iff]
  exact around ((enumerates later earlier).mpr isDependent)

end Order

/-! ## Cycles -/

/-- Precedents are enumerated, in whatever order. -/
def EnumeratesPrecedents (graph : Graph) (enumerate : Address → List Address) : Prop :=
  ∀ dependent precedent, precedent ∈ enumerate dependent ↔ precedent ∈ graph.precedentsOf dependent

/-- A cell is circular exactly if a path of one or more edges leads from it through its
precedents back to itself, whatever the order in which precedents are enumerated. -/
theorem isCircularBy_iff {graph : Graph} {enumerate : Address → List Address}
    (enumerates : graph.EnumeratesPrecedents enumerate) (address : Address) :
    graph.isCircularBy enumerate address = true ↔
      Relation.TransGen (fun dependent precedent => precedent ∈ graph.precedentsOf dependent)
        address address := by
  have complete : ∀ reader, reader ∉ graph.precedents.keys → enumerate reader = [] :=
    fun _ => Neighbours.eq_nil_of_enumerates enumerates
  have reading : (fun dependent precedent => precedent ∈ graph.precedentsOf dependent) =
      fun dependent precedent => precedent ∈ enumerate dependent := by
    funext dependent precedent
    exact propext (enumerates dependent precedent).symm
  rw [isCircularBy, Search.among_found_iff complete, reading, Relation.TransGen.head'_iff]
  rfl

/-- An address is circular exactly if it leads back to itself through precedents. -/
theorem isCircular_iff (graph : Graph) (address : Address) :
    graph.isCircular address = true ↔
      Relation.TransGen (fun dependent precedent => precedent ∈ graph.precedentsOf dependent)
        address address :=
  isCircularBy_iff (fun _ _ => Iff.rfl) address

end Graph

end Spreadsheet.Dependency
