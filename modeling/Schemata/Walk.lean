/-!
# Walks through finite graphs

A graph is given by the successors of each of its vertices.  The walk takes a stack of vertices,
visits each vertex once, and goes to the successors of a vertex before it goes on with the rest
of the stack.

## Main definitions

* `Walk.preorder` : the vertices found from a list of roots, in the order in which they are met.
* `Walk.postorder` : the same vertices in the order in which they are left.
-/

namespace Schemata.Walk

variable {κ : Type} [DecidableEq κ]

/-- The successors of each vertex that has any. -/
abbrev Edges (κ : Type) := List (κ × List κ)

/-- The successors of a vertex, in order. -/
def successors (edges : Edges κ) (vertex : κ) : List κ :=
  (edges.lookup vertex).getD []

/-- The number of edges that start outside `seen`. -/
def unseen (edges : Edges κ) (seen : List κ) : Nat :=
  ((edges.filter fun e => decide (e.1 ∉ seen)).flatMap Prod.snd).length

theorem unseen_cons (e : κ × List κ) (rest : Edges κ) (seen : List κ) :
    unseen (e :: rest) seen = (if e.1 ∈ seen then 0 else e.2.length) + unseen rest seen := by
  by_cases old : e.1 ∈ seen <;> simp [unseen, old]

theorem unseen_append_le (edges : Edges κ) (seen : List κ) (vertex : κ) :
    unseen edges (seen ++ [vertex]) ≤ unseen edges seen := by
  induction edges with
  | nil => simp [unseen]
  | cons e rest ih =>
    rw [unseen_cons, unseen_cons]
    by_cases old : e.1 ∈ seen
    · simpa [old] using ih
    · rw [if_neg old]
      split <;> omega

/-- The edges of a vertex count as long as it is not seen. -/
theorem length_successors_add_unseen_le (edges : Edges κ) {seen : List κ} {vertex : κ}
    (new : vertex ∉ seen) :
    (successors edges vertex).length + unseen edges (seen ++ [vertex]) ≤ unseen edges seen := by
  induction edges with
  | nil => simp [unseen, successors]
  | cons e rest ih =>
    obtain ⟨key, next⟩ := e
    rw [unseen_cons, unseen_cons]
    by_cases same : vertex = key
    · subst same
      have own : successors ((vertex, next) :: rest) vertex = next := by
        simp [successors]
      have le := unseen_append_le rest seen vertex
      rw [own, if_pos (by simp), if_neg new]
      dsimp only
      omega
    · have other : successors ((key, next) :: rest) vertex = successors rest vertex := by
        have hne : (vertex == key) = false := by simpa using same
        simp [successors, List.lookup_cons, hne]
      have kept : key ∈ seen ++ [vertex] ↔ key ∈ seen := by
        rw [List.mem_append, List.mem_singleton, or_iff_left fun h => same h.symm]
      simp only [other, kept]
      omega

/-- Visits the vertices of `stack` in order; `seen` lists the visited ones. -/
def visit (edges : Edges κ) (stack seen : List κ) : List κ :=
  match stack with
  | [] => seen
  | vertex :: rest =>
    if vertex ∈ seen then visit edges rest seen
    else visit edges (successors edges vertex ++ rest) (seen ++ [vertex])
termination_by unseen edges seen + stack.length
decreasing_by
  · simp
  · rename_i new
    have counted := length_successors_add_unseen_le edges new
    simp only [List.length_append, List.length_cons]
    omega

/-- The vertices found from `roots`, each once, in the order of a left-to-right walk. -/
def preorder (edges : Edges κ) (roots : List κ) : List κ :=
  visit edges roots []

/-! ### Leaving vertices -/

/-- A step of a walk that also tells when a vertex is left. -/
inductive Step (κ : Type)
  | enter (vertex : κ)
  | leave (vertex : κ)

/-- The work that a stack of steps still holds. -/
def stackWeight : List (Step κ) → Nat
  | [] => 0
  | .enter _ :: rest => stackWeight rest + 2
  | .leave _ :: rest => stackWeight rest + 1

omit [DecidableEq κ] in
theorem stackWeight_append (stack rest : List (Step κ)) :
    stackWeight (stack ++ rest) = stackWeight stack + stackWeight rest := by
  induction stack with
  | nil => simp [stackWeight]
  | cons step stack ih => cases step <;> simp only [List.cons_append, stackWeight, ih] <;> omega

omit [DecidableEq κ] in
theorem stackWeight_map_enter (vertices : List κ) :
    stackWeight (vertices.map .enter) = 2 * vertices.length := by
  induction vertices with
  | nil => rfl
  | cons vertex vertices ih => simp only [List.map_cons, stackWeight, ih, List.length_cons]; omega

/-- Takes the steps of `stack` in order; `seen` lists the entered vertices, `left` those that have
been left. -/
def depart (edges : Edges κ) (stack : List (Step κ)) (seen left : List κ) : List κ :=
  match stack with
  | [] => left
  | .leave vertex :: rest => depart edges rest seen (left ++ [vertex])
  | .enter vertex :: rest =>
    if vertex ∈ seen then depart edges rest seen left
    else
      depart edges ((successors edges vertex).map .enter ++ .leave vertex :: rest)
        (seen ++ [vertex]) left
termination_by 2 * unseen edges seen + stackWeight stack
decreasing_by
  · simp [stackWeight]
  · simp [stackWeight]
  · rename_i new
    have counted := length_successors_add_unseen_le edges new
    simp only [stackWeight_append, stackWeight_map_enter, stackWeight]
    omega

/-- The vertices found from `roots`, each once, in the order in which a left-to-right walk leaves
them: what a vertex leads to comes before it, cycles apart. -/
def postorder (edges : Edges κ) (roots : List κ) : List κ :=
  depart edges (roots.map .enter) [] []

end Schemata.Walk
