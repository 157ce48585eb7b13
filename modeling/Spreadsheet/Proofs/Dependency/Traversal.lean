import Mathlib.Logic.Relation
import Spreadsheet.Dependency.Traversal

/-!
# What a depth-first traversal lists

`Traversal.Walk` says what a walk from some starts adds to the vertices that are
finished already. The part that carries the induction is `Sound`: a finished vertex
has only finished successors, apart from those on the current path, and no vertex
stands before one that leads to it unless the two lie on a cycle. The main results
are the last three, about `visitAll` on graphs of any shape.
-/

namespace Spreadsheet.Dependency.Traversal

variable {Vertex : Type} {next : Vertex → List Vertex} {vertices path finished result : List Vertex}

/-- One vertex leads to another in zero or more steps. -/
def Reaches (next : Vertex → List Vertex) : Vertex → Vertex → Prop :=
  Relation.ReflTransGen fun vertex successor => successor ∈ next vertex

/-- The state of a walk whose current path is `path`. -/
structure Sound (next : Vertex → List Vertex) (path finished : List Vertex) : Prop where
  nodup : finished.Nodup
  apart : ∀ vertex ∈ finished, vertex ∉ path
  closed : ∀ vertex ∈ finished, ∀ successor ∈ next vertex,
    successor ∈ finished ∨ successor ∈ path
  ordered : finished.Pairwise fun earlier later =>
    earlier ∈ next later → Reaches next earlier later

/-- A vertex that is not finished can be taken onto the path. -/
theorem Sound.enter {vertex : Vertex} (sound : Sound next path finished)
    (unfinished : vertex ∉ finished) : Sound next (vertex :: path) finished where
  nodup := sound.nodup
  apart := by
    intro other member onPath
    rcases List.mem_cons.mp onPath with rfl | onPath
    · exact unfinished member
    · exact sound.apart other member onPath
  closed other member successor isNext :=
    (sound.closed other member successor isNext).imp_right (List.mem_cons_of_mem vertex)
  ordered := sound.ordered

/-- A walk from the starts in turn: it keeps what was finished and adds vertices that
the starts lead to, the starts included unless they are on the path. -/
structure Walk (next : Vertex → List Vertex) (path finished starts result : List Vertex) :
    Prop where
  sound : Sound next path result
  kept : finished ⊆ result
  started : ∀ start ∈ starts, start ∈ result ∨ start ∈ path
  reached : ∀ vertex ∈ result, vertex ∈ finished ∨ ∃ start ∈ starts, Reaches next start vertex

namespace Walk

variable {starts : List Vertex} {start vertex : Vertex}

/-- A walk from nowhere finishes nothing. -/
theorem nil (sound : Sound next path finished) : Walk next path finished [] finished where
  sound := sound
  kept := List.Subset.refl finished
  started _ member := nomatch member
  reached _ member := .inl member

/-- Walks one after the other are a walk from the starts of both. -/
theorem cons {middle : List Vertex} (first : Walk next path finished [start] middle)
    (rest : Walk next path middle starts result) :
    Walk next path finished (start :: starts) result where
  sound := rest.sound
  kept := List.Subset.trans first.kept rest.kept
  started := by
    intro other member
    rcases List.mem_cons.mp member with rfl | member
    · exact (first.started other (List.mem_singleton_self other)).imp_left
        fun seen => rest.kept seen
    · exact rest.started other member
  reached := by
    intro vertex member
    rcases rest.reached vertex member with member | ⟨other, isStart, reaches⟩
    · rcases first.reached vertex member with old | ⟨other, isFirst, reaches⟩
      · exact .inl old
      · cases List.mem_singleton.mp isFirst
        exact .inr ⟨start, List.mem_cons_self, reaches⟩
    · exact .inr ⟨other, List.mem_cons_of_mem start isStart, reaches⟩

/-- A vertex that has been seen adds nothing. -/
theorem seen (sound : Sound next path finished) (known : vertex ∈ finished ∨ vertex ∈ path) :
    Walk next path finished [vertex] finished where
  sound := sound
  kept := List.Subset.refl finished
  started start member := by
    cases List.mem_singleton.mp member
    exact known
  reached _ member := .inl member

/-- Visiting the successors of a new vertex and then finishing it is a walk from it. -/
theorem finish (sound : Sound next path finished) (unseen : ¬ (vertex ∈ finished ∨ vertex ∈ path))
    (below : Walk next (vertex :: path) finished (next vertex) result) :
    Walk next path finished [vertex] (vertex :: result) := by
  have unlisted : vertex ∉ result := fun listed =>
    below.sound.apart vertex listed List.mem_cons_self
  have reached : ∀ other ∈ result, other ∈ finished ∨ Reaches next vertex other := by
    intro other member
    refine (below.reached other member).imp_right ?_
    rintro ⟨successor, isNext, reaches⟩
    exact .head isNext reaches
  refine ⟨⟨?_, ?_, ?_, ?_⟩, ?_, ?_, ?_⟩
  · exact List.nodup_cons.mpr ⟨unlisted, below.sound.nodup⟩
  · intro other member
    rcases List.mem_cons.mp member with rfl | member
    · exact fun onPath => unseen (.inr onPath)
    · exact fun onPath => below.sound.apart other member (List.mem_cons_of_mem vertex onPath)
  · intro other member successor isNext
    have known : successor ∈ result ∨ successor ∈ vertex :: path := by
      rcases List.mem_cons.mp member with rfl | member
      · exact below.started successor isNext
      · exact below.sound.closed other member successor isNext
    rcases known with listed | onPath
    · exact .inl (List.mem_cons_of_mem vertex listed)
    · rcases List.mem_cons.mp onPath with rfl | onPath
      · exact .inl List.mem_cons_self
      · exact .inr onPath
  · refine List.pairwise_cons.mpr ⟨?_, below.sound.ordered⟩
    -- What was finished before cannot lead to the vertex: the vertex was not seen then.
    intro later member isNext
    rcases reached later member with old | reaches
    · exact absurd (sound.closed later old vertex isNext) unseen
    · exact reaches
  · exact fun other old => List.mem_cons_of_mem vertex (below.kept old)
  · intro start member
    exact .inl (List.mem_cons.mpr (.inl (List.mem_singleton.mp member)))
  · intro other member
    rcases List.mem_cons.mp member with rfl | member
    · exact .inr ⟨other, List.mem_singleton_self other, .refl⟩
    · exact (reached other member).imp_right fun reaches =>
        ⟨vertex, List.mem_singleton_self vertex, reaches⟩

/-- Visits that are walks add up to a walk. -/
theorem foldl {visit : List Vertex → Vertex → List Vertex}
    (visits : ∀ finished vertex, Sound next path finished →
      Walk next path finished [vertex] (visit finished vertex))
    (sound : Sound next path finished) (starts : List Vertex) :
    Walk next path finished starts (starts.foldl visit finished) := by
  induction starts generalizing finished with
  | nil => exact .nil sound
  | cons start starts inductionHypothesis =>
    have first := visits finished start sound
    exact first.cons (inductionHypothesis first.sound)

end Walk

variable [DecidableEq Vertex]

/-- A visit is a walk from its vertex, provided `vertices` holds every vertex that has
successors. -/
theorem visit_walk (complete : ∀ vertex, vertex ∉ vertices → next vertex = [])
    (path finished : List Vertex) (vertex : Vertex) (sound : Sound next path finished) :
    Walk next path finished [vertex] (visit next vertices path finished vertex) := by
  fun_induction visit next vertices path finished vertex with
  | case1 path finished vertex known => exact .seen sound known
  | case2 path finished vertex unseen isVertex inductionHypothesis =>
    exact .finish sound unseen
      (.foldl inductionHypothesis (sound.enter fun member => unseen (.inl member)) (next vertex))
  | case3 path finished vertex unseen notVertex =>
    refine .finish sound unseen ?_
    rw [complete vertex notVertex]
    exact .nil (sound.enter fun member => unseen (.inl member))

/-! ## Main results -/

/-- Visiting from an empty path and with nothing finished is a walk. -/
theorem visitAll_walk (complete : ∀ vertex, vertex ∉ vertices → next vertex = [])
    (starts : List Vertex) : Walk next [] [] starts (visitAll next vertices starts) := by
  have start : Sound next [] [] :=
    { nodup := .nil
      apart := fun _ member => nomatch member
      closed := fun _ member => nomatch member
      ordered := .nil }
  exact .foldl (visit_walk complete []) start starts

/-- A traversal lists exactly what the starts lead to. -/
theorem mem_visitAll_iff (complete : ∀ vertex, vertex ∉ vertices → next vertex = [])
    (starts : List Vertex) (vertex : Vertex) :
    vertex ∈ visitAll next vertices starts ↔ ∃ start ∈ starts, Reaches next start vertex := by
  have walk := visitAll_walk complete starts
  constructor
  · intro member
    exact (walk.reached vertex member).resolve_left fun old => nomatch old
  · rintro ⟨start, isStart, reaches⟩
    -- The list holds the start, and no edge leads out of it.
    induction reaches with
    | refl => exact (walk.started start isStart).resolve_right fun onPath => nomatch onPath
    | tail _ isNext listed =>
      exact (walk.sound.closed _ listed _ isNext).resolve_right fun onPath => nomatch onPath

/-- A traversal lists nothing twice. -/
theorem nodup_visitAll (complete : ∀ vertex, vertex ∉ vertices → next vertex = [])
    (starts : List Vertex) : (visitAll next vertices starts).Nodup :=
  (visitAll_walk complete starts).sound.nodup

/-- In a traversal a vertex stands before one that leads to it only if the two are on
a cycle. -/
theorem pairwise_visitAll (complete : ∀ vertex, vertex ∉ vertices → next vertex = [])
    (starts : List Vertex) :
    (visitAll next vertices starts).Pairwise fun earlier later =>
      earlier ∈ next later → Reaches next earlier later :=
  (visitAll_walk complete starts).sound.ordered

end Spreadsheet.Dependency.Traversal
