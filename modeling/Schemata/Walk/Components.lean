import Schemata.OrderedMap
import Schemata.Walk

/-!
# Strongly connected components

Two vertices are in the same component when each leads to the other.  The search numbers vertices in
the order in which it enters them, and keeps those without a component on a stack.  Each vertex has
a low link: the lowest number on the stack that it is known to lead to.  A vertex that is left and
has its own number as low link is the first of its component, and the vertices above it on the stack
are the others.

The low links and the numbers are looked up in tables.  A look-up that finds nothing ends the search
without a result.

## Main definitions

* `Walk.Search` : the state of a search.
* `Walk.Search.step` : looks at the next successor of the vertex on top, or leaves that vertex.
* `Walk.components?` : the components of a graph.
-/

namespace Schemata.Walk

variable {κ : Type} [DecidableEq κ]

/-- The vertices that are listed with their successors. -/
def vertices {κ : Type} (edges : Edges κ) : List κ :=
  edges.map Prod.fst

/-- The state of a search for components. -/
structure Search (κ : Type) where
  /-- The vertices that are being visited, the last one first, with the successors that were not
  looked at yet. -/
  work : List (κ × List κ) := []
  /-- The number of the vertex that is entered next. -/
  next : Nat := 0
  /-- The numbers of the vertices that were entered. -/
  numbers : OrderedMap κ Nat := .empty
  lowLinks : OrderedMap κ Nat := .empty
  /-- The vertices that were entered and have no component yet, the last one first. -/
  stack : List κ := []
  components : List (List κ) := []

namespace Search

/-- Enters a vertex. -/
def enter (edges : Edges κ) (s : Search κ) (vertex : κ) : Search κ :=
  { s with
    work := (vertex, successors edges vertex) :: s.work
    next := s.next + 1
    numbers := s.numbers.insert vertex s.next
    lowLinks := s.lowLinks.insert vertex s.next
    stack := vertex :: s.stack }

/-- Lowers the low link of a vertex to a bound. -/
def lower (s : Search κ) (vertex : κ) (bound : Nat) : Option (Search κ) :=
  (s.lowLinks.get? vertex).map fun low =>
    { s with lowLinks := s.lowLinks.insert vertex (min low bound) }

/-- Looks at a successor of a vertex: it is entered if it is new, and it lowers the low link if it
has no component yet.  A successor that is not listed as a vertex is passed over. -/
def look (edges : Edges κ) (s : Search κ) (vertex target : κ) : Option (Search κ) :=
  if target ∉ vertices edges then some s
  else if !s.numbers.contains target then some (s.enter edges target)
  else if target ∈ s.stack then (s.numbers.get? target).bind (s.lower vertex)
  else some s

/-- Makes a component of a vertex and all that is above it on the stack. -/
def close (s : Search κ) (vertex : κ) : Search κ :=
  let above := s.stack.takeWhile (· ≠ vertex)
  let rest := s.stack.dropWhile (· ≠ vertex)
  { s with
    stack := rest.drop 1
    components := s.components ++ [(above ++ rest.take 1).reverse] }

/-- Lowers the low link of the vertex on top of the work, if there is one. -/
def lowerTop (s : Search κ) (bound : Nat) : Option (Search κ) :=
  match s.work with
  | [] => some s
  | (vertex, _) :: _ => s.lower vertex bound

/-- Leaves a vertex that is no longer in work: its low link goes on to the vertex from which it was
entered, and its component is closed if it is the first of it. -/
def leave (s : Search κ) (vertex : κ) : Option (Search κ) := do
  let low ← s.lowLinks.get? vertex
  let number ← s.numbers.get? vertex
  let s ← s.lowerTop low
  return if low = number then s.close vertex else s

/-- Takes a step from the vertex on top of the work: looks at its next successor, or leaves it. -/
def step (edges : Edges κ) (s : Search κ) : Option (Search κ) :=
  match s.work with
  | [] => some s
  | (vertex, []) :: below => leave { s with work := below } vertex
  | (vertex, target :: rest) :: below =>
    look edges { s with work := (vertex, rest) :: below } vertex target

/-! ### The search ends -/

/-- The steps that the vertices in work need at least. -/
def workWeight : List (κ × List κ) → Nat
  | [] => 0
  | e :: below => 2 * e.2.length + 1 + workWeight below

/-- What every step lowers: each edge counts twice as long as nobody has looked at it. -/
def weight (edges : Edges κ) (s : Search κ) : Nat :=
  2 * unseen edges s.numbers.keys + workWeight s.work

theorem weight_enter_le {edges : Edges κ} {s : Search κ} {vertex : κ}
    (new : vertex ∉ s.numbers.keys) :
    (s.enter edges vertex).weight edges ≤ s.weight edges + 1 := by
  have keys : (s.numbers.insert vertex s.next).keys = s.numbers.keys ++ [vertex] := by
    rw [OrderedMap.insert, dif_neg new]
    exact List.map_append
  have counted := length_successors_add_unseen_le edges new
  simp only [weight, enter, keys, workWeight]
  omega

theorem weight_lower {edges : Edges κ} {s s' : Search κ} {vertex : κ} {bound : Nat}
    (lowered : s.lower vertex bound = some s') : s'.weight edges = s.weight edges := by
  obtain ⟨low, -, rfl⟩ := Option.map_eq_some_iff.mp lowered
  rfl

theorem weight_lowerTop {edges : Edges κ} {s s' : Search κ} {bound : Nat}
    (lowered : s.lowerTop bound = some s') : s'.weight edges = s.weight edges := by
  unfold lowerTop at lowered
  split at lowered
  · cases lowered
    rfl
  · exact weight_lower lowered

theorem weight_look_le {edges : Edges κ} {s s' : Search κ} {vertex target : κ}
    (looked : s.look edges vertex target = some s') :
    s'.weight edges ≤ s.weight edges + 1 := by
  unfold look at looked
  split at looked
  · cases looked
    exact Nat.le_succ _
  split at looked
  · rename_i new
    cases looked
    exact weight_enter_le (by simpa [OrderedMap.contains] using new)
  split at looked
  · obtain ⟨number, -, lowered⟩ := Option.bind_eq_some_iff.mp looked
    rw [weight_lower lowered]
    exact Nat.le_succ _
  · cases looked
    exact Nat.le_succ _

theorem weight_leave {edges : Edges κ} {s s' : Search κ} {vertex : κ}
    (left : s.leave vertex = some s') : s'.weight edges = s.weight edges := by
  obtain ⟨low, -, left⟩ := Option.bind_eq_some_iff.mp left
  obtain ⟨number, -, left⟩ := Option.bind_eq_some_iff.mp left
  obtain ⟨lowered, passed, left⟩ := Option.bind_eq_some_iff.mp left
  rw [← weight_lowerTop passed, ← Option.some.inj left]
  split <;> rfl

/-- Every step lowers the weight. -/
theorem weight_step_lt {edges : Edges κ} {s s' : Search κ} (busy : s.work ≠ [])
    (stepped : s.step edges = some s') : s'.weight edges < s.weight edges := by
  unfold step at stepped
  split at stepped
  · contradiction
  · rename_i vertex below work
    rw [weight_leave stepped]
    simp [weight, work, workWeight]
  · rename_i vertex target rest below work
    have counted := weight_look_le stepped
    simp only [weight, work, workWeight, List.length_cons] at counted ⊢
    omega

/-- Takes steps until no vertex is in work. -/
def run (edges : Edges κ) (s : Search κ) : Option (Search κ) :=
  if _busy : s.work = [] then some s
  else
    match _stepped : s.step edges with
    | none => none
    | some s' => run edges s'
termination_by s.weight edges
decreasing_by exact weight_step_lt _busy _stepped

/-- Visits a vertex that was not entered before. -/
def visit (edges : Edges κ) (s : Search κ) (vertex : κ) : Option (Search κ) :=
  if s.numbers.contains vertex then some s else (s.enter edges vertex).run edges

end Search

/-- The components of a graph, each before the components from which edges lead to it. -/
def components? (edges : Edges κ) : Option (List (List κ)) :=
  ((vertices edges).foldlM (Search.visit edges) {}).map Search.components

end Schemata.Walk
