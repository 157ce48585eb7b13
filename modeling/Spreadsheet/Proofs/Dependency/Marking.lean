import Mathlib.Data.Finset.Card
import Mathlib.Data.List.Basic
import Spreadsheet.Dependency.Traversal

/-!
# A traversal that marks what it has entered

`Traversal.visit` is given its path and returns the finished vertices. Here the same traversal
keeps two sets of marks that it changes as it goes, the vertices on the path and those that
have been visited, and nothing bounds its depth beforehand. `Marking.Visits` relates the marks
before a traversal to those with which it returns.

The vertices that carry no mark become fewer whenever a vertex is entered, and no vertex loses
its marks for good: leaving it moves it from one set to the other. This bounds the traversal on
a graph of any shape (`exists_visits`). `Gained` is what it leaves behind, and `finished_eq`
says that this is what `Traversal.visit` returns.
-/

namespace Spreadsheet.Dependency.Traversal

variable {Vertex : Type}

/-- Vertices that are marked one after another, each of them once and none that had a mark. -/
structure Fresh (added : List Vertex) (marked : Finset Vertex) : Prop where
  nodup : added.Nodup
  unmarked : ∀ vertex ∈ added, vertex ∉ marked

/-- No vertex has to be new. -/
theorem Fresh.nil {marked : Finset Vertex} : Fresh [] marked where
  nodup := .nil
  unmarked := List.forall_mem_nil _

variable [DecidableEq Vertex]

/-- The number of vertices that carry no mark. -/
def unmarked (vertices : List Vertex) (marked : Finset Vertex) : Nat :=
  (vertices.toFinset \ marked).card

section Unmarked

variable {vertices : List Vertex} {marked more : Finset Vertex}

/-- More marks leave no more vertices without. -/
theorem unmarked_le_of_subset (subset : marked ⊆ more) :
    unmarked vertices more ≤ unmarked vertices marked :=
  Finset.card_le_card (Finset.sdiff_subset_sdiff (Finset.Subset.refl _) subset)

/-- One more mark leaves fewer vertices without. -/
theorem unmarked_insert_lt {vertex : Vertex} (isVertex : vertex ∈ vertices)
    (isUnmarked : vertex ∉ marked) :
    unmarked vertices (insert vertex marked) < unmarked vertices marked := by
  rw [unmarked, Finset.sdiff_insert]
  exact Finset.card_erase_lt_of_mem
    (Finset.mem_sdiff.mpr ⟨List.mem_toFinset.mpr isVertex, isUnmarked⟩)

/-- A traversal goes on from fewer vertices, or from vertices with more marks. -/
theorem lex_of_subset {shorter longer : Nat} (subset : marked ⊆ more) (fewer : shorter < longer) :
    Prod.Lex (· < ·) (· < ·) (unmarked vertices more, shorter)
      (unmarked vertices marked, longer) := by
  rcases Nat.lt_or_eq_of_le (unmarked_le_of_subset subset) with marksMore | same
  · exact .left _ _ marksMore
  · rw [same]
    exact .right _ fewer

end Unmarked

namespace Fresh

variable {added later : List Vertex} {marked : Finset Vertex} {vertex : Vertex}

/-- Vertices marked later are new to those marked first. -/
theorem append (first : Fresh added marked) (rest : Fresh later (marked ∪ added.toFinset)) :
    Fresh (later ++ added) marked where
  nodup := by
    refine List.nodup_append.mpr ⟨rest.nodup, first.nodup, ?_⟩
    rintro vertex isLater other isEarlier rfl
    exact rest.unmarked vertex isLater
      (Finset.mem_union_right _ (List.mem_toFinset.mpr isEarlier))
  unmarked := by
    intro vertex member isMarked
    rcases List.mem_append.mp member with isLater | isEarlier
    · exact rest.unmarked vertex isLater (Finset.mem_union_left _ isMarked)
    · exact first.unmarked vertex isEarlier isMarked

/-- A vertex with a mark of its own comes in addition. -/
theorem cons (isUnmarked : vertex ∉ marked) (below : Fresh added (insert vertex marked)) :
    Fresh (vertex :: added) marked where
  nodup := List.nodup_cons.mpr
    ⟨fun member => below.unmarked vertex member (Finset.mem_insert_self vertex marked),
      below.nodup⟩
  unmarked := List.forall_mem_cons.mpr
    ⟨isUnmarked, fun other member isMarked =>
      below.unmarked other member (Finset.mem_insert_of_mem isMarked)⟩

/-- A vertex without a mark is new. -/
theorem singleton (isUnmarked : vertex ∉ marked) : Fresh [vertex] marked :=
  .cons isUnmarked .nil

end Fresh

/-- What a traversal has at hand while it goes on. -/
structure Marking (Vertex : Type) where
  /-- The vertices that have been entered and not left. -/
  onPath : Finset Vertex
  /-- The vertices that have been left. -/
  visited : Finset Vertex
  /-- The vertices that have been left, the last one first. -/
  finished : List Vertex
  /-- The vertices whose successors have been listed, the last one first. -/
  expanded : List Vertex

namespace Marking

/-- Nothing has been entered. -/
def start : Marking Vertex :=
  ⟨∅, ∅, [], []⟩

/-- The vertices with a mark of either kind. -/
def marked (marking : Marking Vertex) : Finset Vertex :=
  marking.onPath ∪ marking.visited

/-- Takes a vertex onto the path and lists its successors. -/
def enter (marking : Marking Vertex) (vertex : Vertex) : Marking Vertex :=
  { marking with
    onPath := insert vertex marking.onPath
    expanded := vertex :: marking.expanded }

/-- Takes a vertex off the path and finishes it. -/
def leave (marking : Marking Vertex) (vertex : Vertex) : Marking Vertex :=
  { marking with
    onPath := marking.onPath.erase vertex
    visited := insert vertex marking.visited
    finished := vertex :: marking.finished }

/-- Entering a vertex marks it and no other. -/
theorem marked_enter (marking : Marking Vertex) (vertex : Vertex) :
    (marking.enter vertex).marked = insert vertex marking.marked :=
  Finset.insert_union vertex marking.onPath marking.visited

/-- A traversal from the given vertices in turn, from the marks before it to those with which
it returns. A vertex with a mark is skipped. -/
inductive Visits (next : Vertex → List Vertex) :
    List Vertex → Marking Vertex → Marking Vertex → Prop where
  | done {marking : Marking Vertex} : Visits next [] marking marking
  | skip {vertex : Vertex} {rest : List Vertex} {marking after : Marking Vertex}
      (isMarked : vertex ∈ marking.marked) (onward : Visits next rest marking after) :
      Visits next (vertex :: rest) marking after
  | expand {vertex : Vertex} {rest : List Vertex} {marking below after : Marking Vertex}
      (isUnmarked : vertex ∉ marking.marked)
      (down : Visits next (next vertex) (marking.enter vertex) below)
      (onward : Visits next rest (below.leave vertex) after) :
      Visits next (vertex :: rest) marking after

/-- What a traversal leaves behind: the path is what it was, and vertices without a mark have
been finished and visited, each of them expanded once. -/
structure Gained (before after : Marking Vertex) (appended log : List Vertex) : Prop where
  onPath : after.onPath = before.onPath
  finished : after.finished = appended ++ before.finished
  visited : after.visited = before.visited ∪ appended.toFinset
  expanded : after.expanded = log ++ before.expanded
  fresh : Fresh appended before.marked
  perm : log.Perm appended

namespace Gained

variable {before middle after : Marking Vertex} {appended log later laterLog : List Vertex}
  {vertex : Vertex}

/-- Nothing is gained where nothing is visited. -/
theorem nil : Gained before before [] [] where
  onPath := rfl
  finished := rfl
  visited := (Finset.union_empty _).symm
  expanded := rfl
  fresh := .nil
  perm := .nil

/-- A vertex that has been marked stays so. -/
theorem marked_eq (gained : Gained before after appended log) :
    after.marked = before.marked ∪ appended.toFinset := by
  rw [marked, gained.onPath, gained.visited, ← Finset.union_assoc, marked]

/-- What two traversals gain one after the other adds up. -/
theorem append (first : Gained before middle appended log)
    (rest : Gained middle after later laterLog) :
    Gained before after (later ++ appended) (laterLog ++ log) where
  onPath := rest.onPath.trans first.onPath
  finished := by rw [rest.finished, first.finished, List.append_assoc]
  visited := by
    rw [rest.visited, first.visited, List.toFinset_append, Finset.union_assoc,
      Finset.union_comm appended.toFinset]
  expanded := by rw [rest.expanded, first.expanded, List.append_assoc]
  fresh := by
    refine first.fresh.append ?_
    rw [← first.marked_eq]
    exact rest.fresh
  perm := rest.perm.append first.perm

/-- A vertex is left as the last of those that are finished below it. -/
theorem leave (isUnmarked : vertex ∉ before.marked)
    (below : Gained (before.enter vertex) middle appended log) :
    Gained before (middle.leave vertex) (vertex :: appended) (log ++ [vertex]) where
  onPath := by
    have offPath : vertex ∉ before.onPath := fun onPath =>
      isUnmarked (Finset.mem_union_left _ onPath)
    rw [Marking.leave, below.onPath]
    exact Finset.erase_insert offPath
  finished := congrArg (vertex :: ·) below.finished
  visited := by
    rw [Marking.leave, below.visited, List.toFinset_cons, Finset.union_insert]
    rfl
  expanded := by
    rw [Marking.leave, below.expanded, List.append_assoc]
    rfl
  fresh := by
    refine .cons isUnmarked ?_
    rw [← marked_enter]
    exact below.fresh
  perm := (List.perm_append_singleton vertex log).trans (below.perm.cons vertex)

end Gained

namespace Visits

variable {next : Vertex → List Vertex} {vertices starts : List Vertex}
  {before after other : Marking Vertex}

/-- Every traversal leaves the path as it was and gains the vertices that it finishes. -/
theorem gained (visits : Visits next starts before after) :
    ∃ appended log, Gained before after appended log := by
  induction visits with
  | done => exact ⟨[], [], .nil⟩
  | skip _ _ inductionHypothesis => exact inductionHypothesis
  | expand isUnmarked _ _ downHypothesis onwardHypothesis =>
    obtain ⟨appended, log, below⟩ := downHypothesis
    obtain ⟨later, laterLog, rest⟩ := onwardHypothesis
    exact ⟨_, _, (below.leave isUnmarked).append rest⟩

/-- A traversal returns with one result only. -/
theorem unique (visits : Visits next starts before after)
    (visitsOther : Visits next starts before other) : after = other := by
  induction visits generalizing other with
  | done =>
    cases visitsOther
    rfl
  | skip isMarked _ inductionHypothesis =>
    cases visitsOther with
    | skip _ onward => exact inductionHypothesis onward
    | expand isUnmarked => exact absurd isMarked isUnmarked
  | expand isUnmarked _ _ downHypothesis onwardHypothesis =>
    cases visitsOther with
    | skip isMarked => exact absurd isMarked isUnmarked
    | expand _ down onward =>
      cases downHypothesis down
      exact onwardHypothesis onward

/-- A traversal returns, whatever the shape of the graph and whatever has been marked, provided
`vertices` holds every vertex that has successors. -/
theorem exists_visits (complete : ∀ vertex, vertex ∉ vertices → next vertex = [])
    (starts : List Vertex) (before : Marking Vertex) :
    ∃ after, Visits next starts before after := by
  match starts with
  | [] => exact ⟨before, .done⟩
  | vertex :: rest =>
    by_cases isMarked : vertex ∈ before.marked
    · obtain ⟨after, onward⟩ := exists_visits complete rest before
      exact ⟨after, .skip isMarked onward⟩
    · have belowReturns : ∃ below, Visits next (next vertex) (before.enter vertex) below := by
        by_cases isVertex : vertex ∈ vertices
        · exact exists_visits complete (next vertex) (before.enter vertex)
        · rw [complete vertex isVertex]
          exact ⟨_, .done⟩
      obtain ⟨below, down⟩ := belowReturns
      obtain ⟨after, onward⟩ := exists_visits complete rest (below.leave vertex)
      exact ⟨after, .expand isMarked down onward⟩
termination_by (unmarked vertices before.marked, starts.length)
decreasing_by
  -- A vertex that is entered has one mark more; past it no mark is lost and one start is done.
  · exact .right _ (Nat.lt_succ_self _)
  · refine .left _ _ ?_
    rw [marked_enter]
    exact unmarked_insert_lt isVertex isMarked
  · obtain ⟨appended, log, gained⟩ := down.gained
    have kept : before.marked ⊆ (below.leave vertex).marked := by
      rw [(gained.leave isMarked).marked_eq]
      exact Finset.subset_union_left
    exact lex_of_subset kept (Nat.lt_succ_self _)

/-- What has been finished is what `Traversal.visit` returns for the same path, provided exactly
the finished vertices have been visited. -/
theorem finished_eq (complete : ∀ vertex, vertex ∉ vertices → next vertex = [])
    (visits : Visits next starts before after) {path : List Vertex}
    (onPath : path.toFinset = before.onPath)
    (visited : before.finished.toFinset = before.visited) :
    after.finished = starts.foldl (visit next vertices path) before.finished := by
  -- The path below a vertex is longer by it, while the one after it is the path before it.
  induction visits generalizing path with
  | done => rfl
  | @skip vertex rest marking after isMarked _ inductionHypothesis =>
    have known : vertex ∈ marking.finished ∨ vertex ∈ path := by
      rw [← List.mem_toFinset, ← List.mem_toFinset, visited, onPath]
      exact (Finset.mem_union.mp isMarked).symm
    rw [List.foldl_cons, visit, dif_pos known]
    exact inductionHypothesis onPath visited
  | @expand vertex rest marking below after isUnmarked down _ downHypothesis onwardHypothesis =>
    have unknown : ¬ (vertex ∈ marking.finished ∨ vertex ∈ path) := by
      rw [← List.mem_toFinset, ← List.mem_toFinset, visited, onPath]
      exact fun known => isUnmarked (Finset.mem_union.mpr known.symm)
    have entered : (vertex :: path).toFinset = (marking.enter vertex).onPath := by
      rw [List.toFinset_cons, onPath]
      rfl
    have finishedBelow := downHypothesis entered visited
    have visitVertex : visit next vertices path marking.finished vertex =
        (below.leave vertex).finished := by
      rw [visit, dif_neg unknown, leave, finishedBelow]
      split
      · rfl
      · rename_i notVertex
        rw [complete vertex notVertex]
        rfl
    obtain ⟨appended, log, gainedBelow⟩ := down.gained
    have gained := gainedBelow.leave isUnmarked
    rw [List.foldl_cons, visitVertex]
    refine onwardHypothesis (onPath.trans gained.onPath.symm) ?_
    rw [gained.finished, gained.visited, List.toFinset_append, visited, Finset.union_comm]

end Visits

end Marking

end Spreadsheet.Dependency.Traversal
