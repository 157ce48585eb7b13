/-!
# Depth-first traversal

`Traversal.visit` walks a graph that is given by the successors of its vertices.
The vertices that are finished are listed last finished first, so on a graph
without cycles every vertex stands before its successors. A successor that is
still on the path is skipped: its edge closes a cycle.

The path holds no vertex twice, so it cannot grow beyond the vertices that have
successors; that bounds the depth of the walk.
-/

namespace Spreadsheet.Dependency.Traversal

variable {Vertex : Type} [DecidableEq Vertex]

/-- The number of vertices that are not on a path. -/
def offPath (vertices path : List Vertex) : Nat :=
  vertices.countP fun vertex => vertex ∉ path

/-- A path that holds more leaves fewer vertices off it. -/
theorem offPath_le_of_subset {path longer : List Vertex} (kept : path ⊆ longer)
    (vertices : List Vertex) : offPath vertices longer ≤ offPath vertices path := by
  apply List.countP_mono_left
  simp only [decide_eq_true_eq]
  exact fun vertex _ missing onPath => missing (kept onPath)

/-- Taking a vertex onto the path leaves fewer vertices off it. -/
theorem offPath_cons_lt {vertices path : List Vertex} {vertex : Vertex}
    (isVertex : vertex ∈ vertices) (notOnPath : vertex ∉ path) :
    offPath vertices (vertex :: path) < offPath vertices path := by
  obtain ⟨before, after, rfl⟩ := List.append_of_mem isVertex
  have kept := List.subset_cons_self vertex path
  have left := offPath_le_of_subset kept before
  have right := offPath_le_of_subset kept after
  simp only [offPath, List.countP_append, List.countP_cons, List.mem_cons, true_or, not_true,
    decide_false, notOnPath, not_false_iff, decide_true] at left right ⊢
  simp only [Bool.false_eq_true, if_false, if_true]
  omega

/-- The finished vertices after a visit to one vertex. `next` lists the successors of
a vertex, `vertices` are those that have any, and `path` leads to the vertex. -/
def visit (next : Vertex → List Vertex) (vertices path finished : List Vertex)
    (vertex : Vertex) : List Vertex :=
  if _seen : vertex ∈ finished ∨ vertex ∈ path then finished
  else if _isVertex : vertex ∈ vertices then
    vertex :: (next vertex).foldl (visit next vertices (vertex :: path)) finished
  else vertex :: finished
termination_by offPath vertices path
decreasing_by exact offPath_cons_lt _isVertex fun onPath => _seen (.inr onPath)

/-- The finished vertices after a visit to each of the given vertices in turn. -/
def visitAll (next : Vertex → List Vertex) (vertices starts : List Vertex) : List Vertex :=
  starts.foldl (visit next vertices []) []

end Spreadsheet.Dependency.Traversal
