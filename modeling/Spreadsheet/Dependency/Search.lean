import Spreadsheet.Dependency.Traversal

/-!
# Depth-first search for one vertex

`Search.among` looks for a target from some vertices in turn, follows successors
depth first and ends as soon as it comes upon the target. A vertex counts as seen
once the search has entered it, finished or not, so none is entered twice; the
vertices not seen yet bound the depth of the search.
-/

namespace Spreadsheet.Dependency.Traversal

variable {Vertex : Type}

/-- How a search ended: whether it came upon its target, and the vertices that are
seen by then, among them those seen before the search. -/
structure Search (before : List Vertex) where
  found : Bool
  seen : List Vertex
  kept : before ⊆ seen

namespace Search

variable {earlier before : List Vertex}

/-- A search that entered no vertex. -/
def unmoved (before : List Vertex) (found : Bool) : Search before :=
  ⟨found, before, List.Subset.refl before⟩

/-- A search as the end of one that began with fewer vertices seen. -/
def since (search : Search before) (kept : earlier ⊆ before) : Search earlier :=
  ⟨search.found, search.seen, List.Subset.trans kept search.kept⟩

/-- The search goes on from each of the given vertices in turn until one of them leads to
the target; `descend` searches from one vertex. -/
def inTurn (descend : (search : Search before) → Vertex → Search search.seen)
    (search : Search before) (starts : List Vertex) : Search before :=
  starts.foldl
    (fun search start => if search.found then search else (descend search start).since search.kept)
    search

variable [DecidableEq Vertex]

/-- A search for `target` from one vertex. `next` lists the successors of a vertex,
`vertices` are those that have any, and `seen` are those seen before. -/
def descend (next : Vertex → List Vertex) (vertices : List Vertex) (target : Vertex)
    (seen : List Vertex) (vertex : Vertex) : Search seen :=
  if vertex = target then .unmoved seen true
  else if _isSeen : vertex ∈ seen then .unmoved seen false
  else
    let entered := Search.unmoved (vertex :: seen) false
    have kept := List.subset_cons_self vertex seen
    if _isVertex : vertex ∈ vertices then
      (entered.inTurn (fun search => descend next vertices target search.seen)
        (next vertex)).since kept
    else entered.since kept
termination_by offPath vertices seen
decreasing_by
  exact Nat.lt_of_le_of_lt (offPath_le_of_subset search.kept vertices)
    (offPath_cons_lt _isVertex _isSeen)

/-- A search for `target` from the given vertices in turn. -/
def among (next : Vertex → List Vertex) (vertices : List Vertex) (target : Vertex)
    (starts : List Vertex) : Search ([] : List Vertex) :=
  (Search.unmoved [] false).inTurn (fun search => descend next vertices target search.seen) starts

end Search

end Spreadsheet.Dependency.Traversal
