import Spreadsheet.Proofs.Dependency.Graph

/-!
# Orders and cycles in terms of the recorded edges

What a graph answers is decided by the edges that were added to it, and by neither the
order in which they came nor the order in which neighbours are looked at. The two main
results, about the recalculation order and about circular cells, are stated for every
list of edges, cycles and repeated edges included.
-/

namespace Spreadsheet.Dependency.Graph

open Traversal

/-- A path of one or more edges leads from one address to another. -/
def LeadsTo (edges : List (Address × Address)) : Address → Address → Prop :=
  Relation.TransGen fun precedent dependent => (precedent, dependent) ∈ edges

section Paths

variable {edges : List (Address × Address)} {start address : Address}

/-- Paths may be followed through the dependents that the graph keeps. -/
theorem leadsTo_iff_dependentsOf :
    LeadsTo edges start address ↔
      Relation.TransGen (fun precedent dependent =>
        dependent ∈ (ofEdges edges).dependentsOf precedent) start address := by
  simp only [LeadsTo, mem_dependentsOf_ofEdges]

/-- Paths may be followed backwards through the precedents that the graph keeps. -/
theorem leadsTo_iff_precedentsOf :
    LeadsTo edges start address ↔
      Relation.TransGen (fun dependent precedent =>
        precedent ∈ (ofEdges edges).precedentsOf dependent) address start := by
  simp only [LeadsTo, mem_precedentsOf_ofEdges]
  exact Relation.transGen_swap.symm

/-- Following dependents stays where it is or takes a path of edges. -/
theorem reaches_dependentsOf_iff :
    Reaches (ofEdges edges).dependentsOf start address ↔
      start = address ∨ LeadsTo edges start address := by
  rw [Reaches, Relation.reflTransGen_iff_eq_or_transGen, leadsTo_iff_dependentsOf, eq_comm]

end Paths

/-! ## The order of a recalculation -/

/-- Of two members of a list one stands before the other. -/
theorem pair_sublist_or {Member : Type} {list : List Member} {first second : Member}
    (different : first ≠ second) (firstListed : first ∈ list) (secondListed : second ∈ list) :
    [first, second].Sublist list ∨ [second, first].Sublist list := by
  obtain ⟨before, after, rfl⟩ := List.append_of_mem firstListed
  have alone : [first].Sublist (first :: after) :=
    List.singleton_sublist.mpr List.mem_cons_self
  rcases List.mem_append.mp secondListed with earlier | later
  · exact .inr ((List.singleton_sublist.mpr earlier).append alone)
  · have follows : second ∈ after := (List.mem_cons.mp later).resolve_left different.symm
    exact .inl (((List.singleton_sublist.mpr follows).cons_cons first).trans
      (List.sublist_append_right before _))

/-- The order holds the changed cells and everything that reads them, each cell once and
nothing else. For an edge that closes no cycle the dependent never stands before its
precedent, and follows it if the precedent is in the order. All this holds whatever the
order in which dependents are enumerated. -/
theorem orderBy_ofEdges (edges : List (Address × Address)) (changed : List Address)
    {dependentsOf : Address → List Address}
    (enumerates : (ofEdges edges).Enumerates dependentsOf) :
    let order := (ofEdges edges).orderBy dependentsOf changed
    (∀ address, address ∈ order ↔
      address ∈ changed ∨ ∃ start ∈ changed, LeadsTo edges start address) ∧
    order.Nodup ∧
    ∀ precedent dependent, (precedent, dependent) ∈ edges → ¬ LeadsTo edges dependent precedent →
      ¬ [dependent, precedent].Sublist order ∧
      (precedent ∈ order → [precedent, dependent].Sublist order) := by
  intro order
  have listed : ∀ address, address ∈ order ↔
      address ∈ changed ∨ ∃ start ∈ changed, LeadsTo edges start address := by
    intro address
    simp only [order, mem_orderBy_iff enumerates, reaches_dependentsOf_iff, and_or_left,
      exists_or, exists_eq_right]
  refine ⟨listed, nodup_orderBy enumerates changed, ?_⟩
  intro precedent dependent edge openEdge
  have different : precedent ≠ dependent := by
    rintro rfl
    exact openEdge (.single edge)
  have notInverted : ¬ [dependent, precedent].Sublist order := by
    intro inverted
    have around := List.pairwise_iff_forall_sublist.mp (pairwise_orderBy enumerates changed)
      inverted (mem_dependentsOf_ofEdges.mpr edge)
    rcases reaches_dependentsOf_iff.mp around with same | leads
    · exact different same.symm
    · exact openEdge leads
  refine ⟨notInverted, fun precedentListed => ?_⟩
  have dependentListed : dependent ∈ order := by
    rcases (listed precedent).mp precedentListed with isChanged | ⟨start, isStart, leads⟩
    · exact (listed dependent).mpr (.inr ⟨precedent, isChanged, .single edge⟩)
    · exact (listed dependent).mpr (.inr ⟨start, isStart, leads.tail edge⟩)
  exact (pair_sublist_or different precedentListed dependentListed).resolve_right notInverted

/-- One cell is read by two, which are read by a cell on a cycle. The cells changed are one of
the two, the first cell twice, and one that no edge mentions; dependents are looked at from
the last to the first. -/
theorem orderBy_ofEdges_two_branches :
    let edges : List (Address × Address) :=
      [(⟨0, 0⟩, ⟨0, 1⟩), (⟨0, 0⟩, ⟨0, 2⟩), (⟨0, 1⟩, ⟨0, 3⟩), (⟨0, 2⟩, ⟨0, 3⟩),
        (⟨0, 3⟩, ⟨0, 4⟩), (⟨0, 4⟩, ⟨0, 3⟩)]
    let changed : List Address := [⟨0, 1⟩, ⟨0, 0⟩, ⟨0, 0⟩, ⟨8, 25⟩]
    let dependentsOf : Address → List Address := fun address =>
      ((ofEdges edges).dependentsOf address).reverse
    let order := (ofEdges edges).orderBy dependentsOf changed
    (ofEdges edges).Enumerates dependentsOf ∧
    order = [⟨8, 25⟩, ⟨0, 0⟩, ⟨0, 2⟩, ⟨0, 1⟩, ⟨0, 3⟩, ⟨0, 4⟩] ∧
    (∀ address, address ∈ order ↔
      address ∈ changed ∨ ∃ start ∈ changed, LeadsTo edges start address) ∧
    order.Nodup ∧
    (⟨0, 0⟩, ⟨0, 1⟩) ∈ edges ∧ ¬ LeadsTo edges ⟨0, 1⟩ ⟨0, 0⟩ ∧ ⟨0, 0⟩ ∈ order ∧
    ¬ [⟨0, 1⟩, ⟨0, 0⟩].Sublist order ∧ [⟨0, 0⟩, ⟨0, 1⟩].Sublist order := by
  intro edges changed dependentsOf order
  have enumerates : (ofEdges edges).Enumerates dependentsOf := fun _ _ => List.mem_reverse
  have listing : order = [⟨8, 25⟩, ⟨0, 0⟩, ⟨0, 2⟩, ⟨0, 1⟩, ⟨0, 3⟩, ⟨0, 4⟩] := by decide +kernel
  have edge : (⟨0, 0⟩, ⟨0, 1⟩) ∈ edges := List.mem_cons_self
  have listed : ⟨0, 0⟩ ∈ order := by
    rw [listing]
    decide
  have openEdge : ¬ LeadsTo edges ⟨0, 1⟩ ⟨0, 0⟩ := by
    intro leads
    obtain ⟨precedent, -, last⟩ := Relation.TransGen.tail'_iff.mp leads
    simp [edges] at last
  obtain ⟨members, nodup, ordered⟩ := orderBy_ofEdges edges changed enumerates
  obtain ⟨notInverted, follows⟩ := ordered _ _ edge openEdge
  exact ⟨enumerates, listing, members, nodup, edge, openEdge, listed, notInverted,
    follows listed⟩

/-! ## Circular cells -/

/-- A cell is reported as circular exactly if recorded edges lead from it back to itself, in
whichever direction they are followed and whatever the order in which precedents are
enumerated. A cell that reads from cycles or is read by them, but never both of one cycle,
is not reported. -/
theorem isCircularBy_ofEdges (edges : List (Address × Address))
    {precedentsOf : Address → List Address}
    (enumerates : (ofEdges edges).EnumeratesPrecedents precedentsOf) (address : Address) :
    ((ofEdges edges).isCircularBy precedentsOf address = true ↔ LeadsTo edges address address) ∧
    (LeadsTo edges address address ↔
      Relation.TransGen (fun precedent dependent =>
        dependent ∈ (ofEdges edges).dependentsOf precedent) address address) ∧
    (LeadsTo edges address address ↔
      Relation.TransGen (fun dependent precedent =>
        precedent ∈ (ofEdges edges).precedentsOf dependent) address address) ∧
    ((∀ member, LeadsTo edges member member → LeadsTo edges member address →
        ¬ LeadsTo edges address member) →
      (ofEdges edges).isCircularBy precedentsOf address = false) := by
  have exactly : (ofEdges edges).isCircularBy precedentsOf address = true ↔
      LeadsTo edges address address := by
    rw [isCircularBy_iff enumerates, leadsTo_iff_precedentsOf]
  refine ⟨exactly, leadsTo_iff_dependentsOf, leadsTo_iff_precedentsOf, ?_⟩
  intro oneWay
  refine eq_false_of_ne_true fun reported => ?_
  have cycle := exactly.mp reported
  exact oneWay address cycle cycle cycle

/-- A cycle of two cells, one cell that reads it and one that it reads, with precedents looked
at from the last to the first. -/
theorem isCircularBy_ofEdges_beside_cycle :
    let edges : List (Address × Address) :=
      [(⟨0, 0⟩, ⟨0, 1⟩), (⟨0, 1⟩, ⟨0, 0⟩), (⟨0, 0⟩, ⟨0, 2⟩), (⟨0, 3⟩, ⟨0, 0⟩)]
    let precedentsOf : Address → List Address := fun address =>
      ((ofEdges edges).precedentsOf address).reverse
    (ofEdges edges).EnumeratesPrecedents precedentsOf ∧
    (ofEdges edges).isCircularBy precedentsOf ⟨0, 0⟩ = true ∧
    LeadsTo edges ⟨0, 0⟩ ⟨0, 0⟩ ∧ LeadsTo edges ⟨0, 0⟩ ⟨0, 2⟩ ∧
    (∀ member, LeadsTo edges member member → LeadsTo edges member ⟨0, 2⟩ →
      ¬ LeadsTo edges ⟨0, 2⟩ member) ∧
    (ofEdges edges).isCircularBy precedentsOf ⟨0, 2⟩ = false ∧
    (ofEdges edges).isCircularBy precedentsOf ⟨0, 3⟩ = false := by
  intro edges precedentsOf
  have enumerates : (ofEdges edges).EnumeratesPrecedents precedentsOf := fun _ _ =>
    List.mem_reverse
  have reported : (ofEdges edges).isCircularBy precedentsOf ⟨0, 0⟩ = true := by decide +kernel
  have unreported : (ofEdges edges).isCircularBy precedentsOf ⟨0, 3⟩ = false := by
    decide +kernel
  have cycle := (isCircularBy_ofEdges edges enumerates ⟨0, 0⟩).1.mp reported
  have read : LeadsTo edges ⟨0, 0⟩ ⟨0, 2⟩ := .single (by simp [edges])
  have oneWay : ∀ member, LeadsTo edges member member → LeadsTo edges member ⟨0, 2⟩ →
      ¬ LeadsTo edges ⟨0, 2⟩ member := by
    intro member _ _ leads
    obtain ⟨dependent, first, -⟩ := Relation.TransGen.head'_iff.mp leads
    simp [edges] at first
  obtain ⟨-, -, -, notReported⟩ := isCircularBy_ofEdges edges enumerates ⟨0, 2⟩
  exact ⟨enumerates, reported, cycle, read, oneWay, notReported oneWay, unreported⟩

end Spreadsheet.Dependency.Graph
