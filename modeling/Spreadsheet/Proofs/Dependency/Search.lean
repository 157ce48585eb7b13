import Spreadsheet.Dependency.Search
import Spreadsheet.Proofs.Dependency.Traversal

/-!
# What a depth-first search finds

A search that finds its target was led there by a start. The converse needs to know
what a search leaves behind that finds nothing, which is `Exhausted`: every vertex it has
entered has been left by all its edges, and none is the target. The vertices seen before
the search are left out of this, whether they are finished or still being searched from.
-/

namespace Spreadsheet.Dependency.Traversal

variable {Vertex : Type} {next : Vertex → List Vertex} {vertices : List Vertex} {target : Vertex}

/-- What has been seen after a search from the starts that did not come upon the target. -/
structure Exhausted (next : Vertex → List Vertex) (target : Vertex)
    (before starts after : List Vertex) : Prop where
  kept : before ⊆ after
  started : starts ⊆ after
  closed : ∀ vertex ∈ after, vertex ∉ before → next vertex ⊆ after
  missed : target ∈ after → target ∈ before

namespace Exhausted

variable {before middle after starts others : List Vertex} {vertex : Vertex}

/-- A search from nowhere exhausts what it starts from. -/
theorem nil : Exhausted next target before [] before where
  kept := List.Subset.refl before
  started := List.nil_subset before
  closed _ member unseen := absurd member unseen
  missed := id

/-- A vertex that has been seen adds nothing. -/
theorem seen (known : vertex ∈ before) : Exhausted next target before [vertex] before where
  kept := List.Subset.refl before
  started := List.cons_subset.mpr ⟨known, List.nil_subset before⟩
  closed _ member unseen := absurd member unseen
  missed := id

/-- Searches that fail one after the other exhaust what both started from. -/
theorem cons (first : Exhausted next target before [vertex] middle)
    (rest : Exhausted next target middle others after) :
    Exhausted next target before (vertex :: others) after where
  kept := List.Subset.trans first.kept rest.kept
  started := by
    have entered : vertex ∈ after := rest.kept (first.started (List.mem_singleton_self vertex))
    exact List.cons_subset.mpr ⟨entered, rest.started⟩
  closed := by
    intro other member unseen
    by_cases early : other ∈ middle
    · exact List.Subset.trans (first.closed other early unseen) rest.kept
    · exact rest.closed other member early
  missed member := first.missed (rest.missed member)

/-- A vertex other than the target is exhausted by a search from its successors. -/
theorem enter (different : vertex ≠ target)
    (below : Exhausted next target (vertex :: before) (next vertex) after) :
    Exhausted next target before [vertex] after where
  kept := fun _ old => below.kept (List.mem_cons_of_mem vertex old)
  started := by
    have entered : vertex ∈ after := below.kept List.mem_cons_self
    exact List.cons_subset.mpr ⟨entered, List.nil_subset after⟩
  closed := by
    intro other member unseen
    by_cases same : other = vertex
    · rw [same]
      exact below.started
    · exact below.closed other member fun old => (List.mem_cons.mp old).elim same unseen
  missed := by
    intro member
    rcases List.mem_cons.mp (below.missed member) with same | old
    · exact absurd same.symm different
    · exact old

/-- Where nothing had been seen before, the starts lead only to what has been entered. -/
theorem mem_of_reaches {start : Vertex} (exhausted : Exhausted next target [] starts after)
    (isStart : start ∈ starts) (reaches : Reaches next start vertex) : vertex ∈ after := by
  induction reaches with
  | refl => exact exhausted.started isStart
  | tail _ isNext entered => exact exhausted.closed _ entered List.not_mem_nil isNext

end Exhausted

namespace Search

variable {earlier before starts : List Vertex}

/-- A search is successful whatever it is compared with. -/
@[simp] theorem since_found (search : Search before) (kept : earlier ⊆ before) :
    (search.since kept).found = search.found := rfl

/-! ## Searches in turn -/

section InTurn

variable {descend : (search : Search before) → Vertex → Search search.seen}

/-- A search in turn that finds the target finds it from one of the starts. -/
theorem exists_found_of_inTurn {search : Search before}
    (found : (search.inTurn descend starts).found = true) :
    search.found = true ∨
      ∃ current : Search before, ∃ start ∈ starts, (descend current start).found = true := by
  induction starts generalizing search with
  | nil => exact .inl found
  | cons start starts inductionHypothesis =>
    rw [inTurn, List.foldl_cons, ← inTurn] at found
    rcases inductionHypothesis found with foundAt | ⟨current, later, isStart, foundLater⟩
    · split at foundAt
      · exact .inl foundAt
      · exact .inr ⟨search, start, List.mem_cons_self, foundAt⟩
    · exact .inr ⟨current, later, List.mem_cons_of_mem start isStart, foundLater⟩

/-- A search in turn does not lose a target that has been found. -/
theorem not_found_of_inTurn {search : Search before}
    (lost : (search.inTurn descend starts).found = false) : search.found = false := by
  refine eq_false_of_ne_true fun found => ?_
  induction starts with
  | nil => exact ne_true_of_eq_false lost found
  | cons start starts inductionHypothesis =>
    rw [inTurn, List.foldl_cons, if_pos found] at lost
    exact inductionHypothesis lost

/-- A search in turn that finds nothing exhausts its starts if each single search does. -/
theorem exhausted_of_inTurn
    (each : ∀ (current : Search before) (start : Vertex), (descend current start).found = false →
      Exhausted next target current.seen [start] (descend current start).seen)
    {search : Search before} (lost : (search.inTurn descend starts).found = false) :
    Exhausted next target search.seen starts (search.inTurn descend starts).seen := by
  induction starts generalizing search with
  | nil => exact .nil
  | cons start starts inductionHypothesis =>
    rw [inTurn, List.foldl_cons, ← inTurn] at lost ⊢
    have lostFirst := not_found_of_inTurn lost
    by_cases found : search.found = true
    · rw [if_pos found] at lostFirst
      exact absurd found (ne_true_of_eq_false lostFirst)
    · rw [if_neg found] at lost lostFirst ⊢
      exact (each search start lostFirst).cons (inductionHypothesis lost)

end InTurn

/-! ## Searches from one vertex -/

variable [DecidableEq Vertex]

/-- What is found is where the vertex leads. -/
theorem reaches_of_descend {seen : List Vertex} {vertex : Vertex}
    (found : (descend next vertices target seen vertex).found = true) :
    Reaches next vertex target := by
  fun_induction descend next vertices target seen vertex with
  | case1 seen => exact .refl
  | case2 => cases found
  | case3 seen vertex different unseen entered kept isVertex inductionHypothesis =>
    rw [since_found] at found
    rcases exists_found_of_inTurn found with foundAt | ⟨current, successor, isNext, foundBelow⟩
    · cases foundAt
    · exact .head isNext (inductionHypothesis current successor foundBelow)
  | case4 => cases found

/-- A search from one vertex that finds nothing exhausts it, provided `vertices` holds every
vertex that has successors. -/
theorem exhausted_of_descend (complete : ∀ vertex, vertex ∉ vertices → next vertex = [])
    {seen : List Vertex} {vertex : Vertex}
    (lost : (descend next vertices target seen vertex).found = false) :
    Exhausted next target seen [vertex] (descend next vertices target seen vertex).seen := by
  fun_induction descend next vertices target seen vertex with
  | case1 => cases lost
  | case2 seen vertex different known => exact .seen known
  | case3 seen vertex different unseen entered kept isVertex inductionHypothesis =>
    exact .enter different (exhausted_of_inTurn inductionHypothesis lost)
  | case4 seen vertex different unseen entered kept notVertex =>
    refine .enter different ?_
    rw [complete vertex notVertex]
    exact .nil

/-- A search finds its target exactly if a start leads there. -/
theorem among_found_iff (complete : ∀ vertex, vertex ∉ vertices → next vertex = [])
    (starts : List Vertex) :
    (among next vertices target starts).found = true ↔
      ∃ start ∈ starts, Reaches next start target := by
  constructor
  · intro found
    rcases exists_found_of_inTurn found with foundAt | ⟨current, start, isStart, foundBelow⟩
    · cases foundAt
    · exact ⟨start, isStart, reaches_of_descend foundBelow⟩
  · rintro ⟨start, isStart, reaches⟩
    refine eq_true_of_ne_false fun lost => ?_
    have exhausted : Exhausted next target [] starts (among next vertices target starts).seen :=
      exhausted_of_inTurn (fun _ _ => exhausted_of_descend complete) lost
    exact List.not_mem_nil (exhausted.missed (exhausted.mem_of_reaches isStart reaches))

end Search

end Spreadsheet.Dependency.Traversal
