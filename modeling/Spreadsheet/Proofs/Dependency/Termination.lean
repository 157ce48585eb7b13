import Spreadsheet.Proofs.Dependency.Graph
import Spreadsheet.Proofs.Dependency.Marking

/-!
# Traversals of a reference graph come to an end

`Trail.Seeks` is the search for one vertex as `Marking.Visits` is the traversal: it changes a set
of visited vertices as it goes, and nothing bounds its depth beforehand. A vertex is visited
once it has been entered, and the vertices not visited become fewer with each that is entered.

`traversals_terminate` puts the two together for every reference graph, cycles and self-loops
included, and for whatever has been marked before: both return, with one result each, list the
neighbours of a cell at most once, and leave the marks behind that they should.
-/

namespace Spreadsheet.Dependency

namespace Traversal

variable {Vertex : Type}

/-! ## Steps of a search in turn -/

namespace Search

section InTurn

variable {earlier starts : List Vertex} {search : Search earlier}
  {descend : (search : Search earlier) → Vertex → Search search.seen}

/-- A search that has found its target stays as it is. -/
theorem inTurn_of_found (found : search.found = true) : search.inTurn descend starts = search := by
  induction starts with
  | nil => rfl
  | cons start starts inductionHypothesis =>
    rw [inTurn, List.foldl_cons, if_pos found]
    exact inductionHypothesis

/-- A search that has found nothing goes on from the next vertex. -/
theorem inTurn_cons {start : Vertex} (unfound : search.found = false) :
    search.inTurn descend (start :: starts) =
      ((descend search start).since search.kept).inTurn descend starts := by
  rw [inTurn, List.foldl_cons, if_neg (ne_true_of_eq_false unfound)]
  rfl

end InTurn

variable [DecidableEq Vertex] {next : Vertex → List Vertex} {vertices seen : List Vertex}
  {target vertex : Vertex}

/-- The target is found where it stands, and nothing is seen on the way. -/
theorem descend_target : descend next vertices target seen target = .unmoved seen true := by
  rw [descend, if_pos rfl]

/-- A vertex that has been seen is not searched from again. -/
theorem descend_of_seen (different : vertex ≠ target) (isSeen : vertex ∈ seen) :
    descend next vertices target seen vertex = .unmoved seen false := by
  rw [descend, if_neg different, dif_pos isSeen]

/-- A vertex that has not been seen is searched from, even if it has no successors. -/
theorem descend_of_unseen (complete : ∀ vertex, vertex ∉ vertices → next vertex = [])
    (different : vertex ≠ target) (unseen : vertex ∉ seen) :
    descend next vertices target seen vertex =
      ((unmoved (vertex :: seen) false).inTurn
        (fun search => descend next vertices target search.seen) (next vertex)).since
        (List.subset_cons_self vertex seen) := by
  rw [descend, if_neg different, dif_neg unseen]
  split
  · rfl
  · rename_i notVertex
    rw [complete vertex notVertex]
    rfl

end Search

/-! ## The trail of a search -/

variable [DecidableEq Vertex]

/-- What a search has at hand while it goes on. -/
structure Trail (Vertex : Type) where
  /-- The vertices that have been entered. -/
  visited : Finset Vertex
  /-- The vertices whose successors have been listed, the last one first. -/
  expanded : List Vertex

namespace Trail

/-- Nothing has been entered. -/
def start : Trail Vertex :=
  ⟨∅, []⟩

/-- Enters a vertex and lists its successors. -/
def enter (trail : Trail Vertex) (vertex : Vertex) : Trail Vertex :=
  ⟨insert vertex trail.visited, vertex :: trail.expanded⟩

/-- A search for `target` from the given vertices in turn, from the trail before it to whether
the target has been found and the trail with which it returns. It ends as soon as it comes upon
the target; a vertex that has been visited is skipped. -/
inductive Seeks (next : Vertex → List Vertex) (target : Vertex) :
    List Vertex → Trail Vertex → Bool → Trail Vertex → Prop where
  | lost {trail : Trail Vertex} : Seeks next target [] trail false trail
  | hit {rest : List Vertex} {trail : Trail Vertex} :
      Seeks next target (target :: rest) trail true trail
  | skip {vertex : Vertex} {rest : List Vertex} {trail after : Trail Vertex} {found : Bool}
      (different : vertex ≠ target) (isVisited : vertex ∈ trail.visited)
      (onward : Seeks next target rest trail found after) :
      Seeks next target (vertex :: rest) trail found after
  | foundBelow {vertex : Vertex} {rest : List Vertex} {trail after : Trail Vertex}
      (different : vertex ≠ target) (unvisited : vertex ∉ trail.visited)
      (down : Seeks next target (next vertex) (trail.enter vertex) true after) :
      Seeks next target (vertex :: rest) trail true after
  | lostBelow {vertex : Vertex} {rest : List Vertex} {trail below after : Trail Vertex}
      {found : Bool} (different : vertex ≠ target) (unvisited : vertex ∉ trail.visited)
      (down : Seeks next target (next vertex) (trail.enter vertex) false below)
      (onward : Seeks next target rest below found after) :
      Seeks next target (vertex :: rest) trail found after

/-- What a search leaves behind: it has visited exactly the vertices that it has expanded, each
of them once and none that had been visited. -/
structure Gained (before after : Trail Vertex) (log : List Vertex) : Prop where
  visited : after.visited = before.visited ∪ log.toFinset
  expanded : after.expanded = log ++ before.expanded
  fresh : Fresh log before.visited

namespace Gained

variable {before middle after : Trail Vertex} {log later : List Vertex} {vertex : Vertex}

/-- Nothing is gained where nothing is visited. -/
theorem nil : Gained before before [] where
  visited := (Finset.union_empty _).symm
  expanded := rfl
  fresh := .nil

/-- What two searches gain one after the other adds up. -/
theorem append (first : Gained before middle log) (rest : Gained middle after later) :
    Gained before after (later ++ log) where
  visited := by
    rw [rest.visited, first.visited, List.toFinset_append, Finset.union_assoc,
      Finset.union_comm log.toFinset]
  expanded := by rw [rest.expanded, first.expanded, List.append_assoc]
  fresh := by
    refine first.fresh.append ?_
    rw [← first.visited]
    exact rest.fresh

/-- A vertex that is entered is gained. -/
theorem enter (unvisited : vertex ∉ before.visited) :
    Gained before (before.enter vertex) [vertex] where
  visited := by
    rw [Finset.union_comm]
    rfl
  expanded := rfl
  fresh := .singleton unvisited

end Gained

namespace Seeks

variable {next : Vertex → List Vertex} {target : Vertex} {vertices starts : List Vertex}
  {before after otherAfter : Trail Vertex} {found otherFound : Bool}

/-- Every search gains the vertices that it expands, each of them once. -/
theorem gained (seeks : Seeks next target starts before found after) :
    ∃ log, Gained before after log := by
  induction seeks with
  | lost => exact ⟨[], .nil⟩
  | hit => exact ⟨[], .nil⟩
  | skip _ _ _ inductionHypothesis => exact inductionHypothesis
  | foundBelow _ unvisited _ inductionHypothesis =>
    obtain ⟨log, below⟩ := inductionHypothesis
    exact ⟨_, (Gained.enter unvisited).append below⟩
  | lostBelow _ unvisited _ _ downHypothesis onwardHypothesis =>
    obtain ⟨log, below⟩ := downHypothesis
    obtain ⟨later, rest⟩ := onwardHypothesis
    exact ⟨_, ((Gained.enter unvisited).append below).append rest⟩

/-- A search returns with one result only. -/
theorem unique (seeks : Seeks next target starts before found after)
    (seeksOther : Seeks next target starts before otherFound otherAfter) :
    found = otherFound ∧ after = otherAfter := by
  induction seeks generalizing otherFound otherAfter with
  | lost =>
    cases seeksOther
    exact ⟨rfl, rfl⟩
  | hit =>
    cases seeksOther with
    | hit => exact ⟨rfl, rfl⟩
    | skip different => exact absurd rfl different
    | foundBelow different => exact absurd rfl different
    | lostBelow different => exact absurd rfl different
  | skip different isVisited _ inductionHypothesis =>
    cases seeksOther with
    | hit => exact absurd rfl different
    | skip _ _ onward => exact inductionHypothesis onward
    | foundBelow _ unvisited => exact absurd isVisited unvisited
    | lostBelow _ unvisited => exact absurd isVisited unvisited
  | foundBelow different unvisited _ inductionHypothesis =>
    cases seeksOther with
    | hit => exact absurd rfl different
    | skip _ isVisited => exact absurd isVisited unvisited
    | foundBelow _ _ down => exact inductionHypothesis down
    | lostBelow _ _ down => cases (inductionHypothesis down).1
  | lostBelow different unvisited _ _ downHypothesis onwardHypothesis =>
    cases seeksOther with
    | hit => exact absurd rfl different
    | skip _ isVisited => exact absurd isVisited unvisited
    | foundBelow _ _ down => cases (downHypothesis down).1
    | lostBelow _ _ down onward =>
      cases (downHypothesis down).2
      exact onwardHypothesis onward

/-- A search returns, whatever the shape of the graph and whatever has been visited, provided
`vertices` holds every vertex that has successors. -/
theorem exists_seeks (complete : ∀ vertex, vertex ∉ vertices → next vertex = [])
    (target : Vertex) (starts : List Vertex) (before : Trail Vertex) :
    ∃ found after, Seeks next target starts before found after := by
  match starts with
  | [] => exact ⟨false, before, .lost⟩
  | vertex :: rest =>
    by_cases isTarget : vertex = target
    · rw [isTarget]
      exact ⟨true, before, .hit⟩
    by_cases isVisited : vertex ∈ before.visited
    · obtain ⟨found, after, onward⟩ := exists_seeks complete target rest before
      exact ⟨found, after, .skip isTarget isVisited onward⟩
    · have belowReturns : ∃ found below,
          Seeks next target (next vertex) (before.enter vertex) found below := by
        by_cases isVertex : vertex ∈ vertices
        · exact exists_seeks complete target (next vertex) (before.enter vertex)
        · rw [complete vertex isVertex]
          exact ⟨false, _, .lost⟩
      obtain ⟨foundBelow, below, down⟩ := belowReturns
      cases foundBelow with
      | true => exact ⟨true, below, .foundBelow isTarget isVisited down⟩
      | false =>
        obtain ⟨found, after, onward⟩ := exists_seeks complete target rest below
        exact ⟨found, after, .lostBelow isTarget isVisited down onward⟩
termination_by (unmarked vertices before.visited, starts.length)
decreasing_by
  -- As for a traversal: entering marks one more vertex, going on leaves one start fewer.
  · exact .right _ (Nat.lt_succ_self _)
  · exact .left _ _ (unmarked_insert_lt isVertex isVisited)
  · obtain ⟨log, gainedBelow⟩ := down.gained
    have kept : before.visited ⊆ below.visited := by
      rw [((Gained.enter isVisited).append gainedBelow).visited]
      exact Finset.subset_union_left
    exact lex_of_subset kept (Nat.lt_succ_self _)

/-- Entering a vertex adds it to those seen. -/
theorem toFinset_enter {seen : List Vertex} (same : seen.toFinset = before.visited)
    (vertex : Vertex) : (vertex :: seen).toFinset = (before.enter vertex).visited := by
  rw [List.toFinset_cons, same]
  rfl

/-- What has been found, and the vertices visited, are those of `Search.descend`, provided
exactly the vertices visited have been seen before. -/
theorem inTurn_eq (complete : ∀ vertex, vertex ∉ vertices → next vertex = [])
    (seeks : Seeks next target starts before found after) {earlier : List Vertex}
    {search : Search earlier} (unfound : search.found = false)
    (seen : search.seen.toFinset = before.visited) :
    let ended := search.inTurn
      (fun search => Search.descend next vertices target search.seen) starts
    ended.found = found ∧ ended.seen.toFinset = after.visited := by
  induction seeks generalizing earlier with
  | lost => exact ⟨unfound, seen⟩
  | hit =>
    rw [Search.inTurn_cons unfound, Search.descend_target, Search.inTurn_of_found rfl]
    exact ⟨rfl, seen⟩
  | skip different isVisited _ inductionHypothesis =>
    rw [← seen, List.mem_toFinset] at isVisited
    rw [Search.inTurn_cons unfound, Search.descend_of_seen different isVisited]
    exact inductionHypothesis rfl seen
  | @foundBelow vertex rest trail after different unvisited _ inductionHypothesis =>
    rw [← seen, List.mem_toFinset] at unvisited
    rw [Search.inTurn_cons unfound, Search.descend_of_unseen complete different unvisited]
    have entered := toFinset_enter seen vertex
    obtain ⟨foundBelow, seenBelow⟩ :=
      @inductionHypothesis _ (.unmoved (vertex :: search.seen) false) rfl entered
    rw [Search.inTurn_of_found]
    · exact ⟨foundBelow, seenBelow⟩
    · exact foundBelow
  | @lostBelow vertex rest trail below after found different unvisited _ _ downHypothesis
      onwardHypothesis =>
    rw [← seen, List.mem_toFinset] at unvisited
    rw [Search.inTurn_cons unfound, Search.descend_of_unseen complete different unvisited]
    have entered := toFinset_enter seen vertex
    obtain ⟨lostBelow, seenBelow⟩ :=
      @downHypothesis _ (.unmoved (vertex :: search.seen) false) rfl entered
    exact onwardHypothesis lostBelow seenBelow

end Seeks

end Trail

end Traversal

/-! ## Reference graphs -/

namespace Graph

open Traversal

/-- Every address that has precedents is a key of the graph. -/
theorem EnumeratesPrecedents.complete {graph : Graph} {enumerate : Address → List Address}
    (enumerates : graph.EnumeratesPrecedents enumerate) (address : Address)
    (missing : address ∉ graph.precedents.keys) : enumerate address = [] :=
  Neighbours.eq_nil_of_enumerates enumerates missing

/-- A traversal of the dependents returns from any starts and with any marks before it. It
leaves the path as it was, and the cells that it has visited in addition are those that it has
finished, each of which it has expanded once. From fresh marks it finishes what the order of a
recalculation lists. A search of the precedents returns from any starts as well and has expanded
each cell at most once; its answer is that of the search for circular cells. -/
theorem traversals_terminate (graph : Graph) {dependentsOf precedentsOf : Address → List Address}
    (enumerates : graph.Enumerates dependentsOf)
    (enumeratesPrecedents : graph.EnumeratesPrecedents precedentsOf) :
    (∀ starts before, (∃! after, Marking.Visits dependentsOf starts before after) ∧
      ∀ after, Marking.Visits dependentsOf starts before after →
        ∃ appended log, Marking.Gained before after appended log ∧ log.Nodup) ∧
    (∀ changed after, Marking.Visits dependentsOf changed .start after →
      after.finished = graph.orderBy dependentsOf changed) ∧
    (∀ target starts before,
      (∃! ended : Bool × Trail Address,
        Trail.Seeks precedentsOf target starts before ended.1 ended.2) ∧
      ∀ found after, Trail.Seeks precedentsOf target starts before found after →
        ∃ log, Trail.Gained before after log) ∧
    (∀ target starts found after, Trail.Seeks precedentsOf target starts .start found after →
      found = (Search.among precedentsOf graph.precedents.keys target starts).found) ∧
    ∀ address found after,
      Trail.Seeks precedentsOf address (precedentsOf address) .start found after →
        found = graph.isCircularBy precedentsOf address := by
  have searched : ∀ target starts found after,
      Trail.Seeks precedentsOf target starts .start found after →
        found = (Search.among precedentsOf graph.precedents.keys target starts).found := by
    intro target starts found after seeks
    exact (seeks.inTurn_eq enumeratesPrecedents.complete rfl rfl).1.symm
  refine ⟨?_, ?_, ?_, searched, fun address => searched address (precedentsOf address)⟩
  · intro starts before
    obtain ⟨after, visits⟩ := Marking.Visits.exists_visits enumerates.complete starts before
    refine ⟨⟨after, visits, fun other visitsOther => visitsOther.unique visits⟩, ?_⟩
    intro after visits
    obtain ⟨appended, log, gained⟩ := visits.gained
    exact ⟨appended, log, gained, gained.perm.nodup_iff.mpr gained.fresh.nodup⟩
  · intro changed after visits
    exact visits.finished_eq enumerates.complete rfl rfl
  · intro target starts before
    obtain ⟨found, after, seeks⟩ :=
      Trail.Seeks.exists_seeks enumeratesPrecedents.complete target starts before
    refine ⟨⟨(found, after), seeks, ?_⟩, fun found after seeks => seeks.gained⟩
    rintro ⟨otherFound, otherAfter⟩ seeksOther
    obtain ⟨sameFound, sameAfter⟩ := seeksOther.unique seeks
    exact Prod.ext sameFound sameAfter

/-- A cell that reads itself, on a cycle with another that a third one reads; neighbours are
looked at from the last to the first. -/
theorem traversals_terminate_loop_on_cycle :
    let edges : List (Address × Address) :=
      [(⟨0, 0⟩, ⟨0, 0⟩), (⟨0, 0⟩, ⟨0, 1⟩), (⟨0, 1⟩, ⟨0, 0⟩), (⟨0, 1⟩, ⟨0, 2⟩)]
    let dependentsOf : Address → List Address := fun address =>
      ((ofEdges edges).dependentsOf address).reverse
    let precedentsOf : Address → List Address := fun address =>
      ((ofEdges edges).precedentsOf address).reverse
    (ofEdges edges).Enumerates dependentsOf ∧ (ofEdges edges).EnumeratesPrecedents precedentsOf ∧
    (∃ after, Marking.Visits dependentsOf [⟨0, 1⟩, ⟨0, 0⟩] .start after ∧
      after.onPath = ∅ ∧ after.finished = [⟨0, 1⟩, ⟨0, 0⟩, ⟨0, 2⟩] ∧
      after.visited = {⟨0, 1⟩, ⟨0, 0⟩, ⟨0, 2⟩} ∧ after.expanded.Nodup) ∧
    ∃ after, Trail.Seeks precedentsOf ⟨0, 3⟩ [⟨0, 2⟩] .start false after ∧
      after.visited = after.expanded.toFinset ∧ after.expanded.Nodup := by
  intro edges dependentsOf precedentsOf
  have enumerates : (ofEdges edges).Enumerates dependentsOf := fun _ _ => List.mem_reverse
  have enumeratesPrecedents : (ofEdges edges).EnumeratesPrecedents precedentsOf := fun _ _ =>
    List.mem_reverse
  obtain ⟨visits, ordered, seeks, answered, -⟩ :=
    traversals_terminate (ofEdges edges) enumerates enumeratesPrecedents
  have order : (ofEdges edges).orderBy dependentsOf [⟨0, 1⟩, ⟨0, 0⟩] =
      [⟨0, 1⟩, ⟨0, 0⟩, ⟨0, 2⟩] := by decide +kernel
  have missed : (Search.among precedentsOf (ofEdges edges).precedents.keys ⟨0, 3⟩
      [⟨0, 2⟩]).found = false := by decide +kernel
  refine ⟨enumerates, enumeratesPrecedents, ?_, ?_⟩
  · obtain ⟨⟨after, visited, -⟩, gains⟩ := visits [⟨0, 1⟩, ⟨0, 0⟩] .start
    obtain ⟨appended, log, gained, once⟩ := gains after visited
    have finished := (ordered _ after visited).trans order
    have appendedEq : appended = [⟨0, 1⟩, ⟨0, 0⟩, ⟨0, 2⟩] :=
      (List.append_nil appended).symm.trans (gained.finished.symm.trans finished)
    refine ⟨after, visited, gained.onPath, finished, ?_, ?_⟩
    · rw [gained.visited, appendedEq]
      rfl
    · rw [gained.expanded]
      exact (List.append_nil log).symm ▸ once
  · obtain ⟨⟨⟨found, after⟩, sought, -⟩, gains⟩ := seeks ⟨0, 3⟩ [⟨0, 2⟩] .start
    have lost := (answered _ _ found after sought).trans missed
    obtain ⟨log, gained⟩ := gains found after sought
    have expanded : after.expanded = log := gained.expanded.trans (List.append_nil log)
    refine ⟨after, lost ▸ sought, ?_, expanded ▸ gained.fresh.nodup⟩
    rw [gained.visited, expanded]
    exact Finset.empty_union _

end Graph

end Spreadsheet.Dependency
