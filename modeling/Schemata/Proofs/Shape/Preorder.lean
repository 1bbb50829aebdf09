import Schemata.Proofs.Shape.Graph
import Schemata.Proofs.Walk.Postorder

/-!
# The order of walks through type graphs

A walk keeps a stack of the vertices that it has still to look at, and puts the successors of a
vertex on top of it.  So the stack is worked off from the top, and everything that a vertex leads to
is found before the walk comes back to what was below it.  These are the turns of the recursive
walk: visit the vertex, then walk from its successors from left to right, then go on.

A walk may check twice whether it has been somewhere.  It makes no difference if successors that
were seen are left off the stack, nor if a declaration is looked for among those that were listed
already.

## Main definitions

* `Walk.Tour` : the recursive walk.
* `ShapeGraph.AnonymousPath` : children lead from one id to another past undeclared ids.

## Main results

* `Walk.tour_visit` : the walk with a stack takes the turns of the recursive one.
* `Walk.tour_iff` : the recursive walk ends, with what the walk with a stack finds.
* `Walk.visit_cons_of_not_mem` : successors that were seen can be left off the stack.
* `ShapeGraph.references_eq_foldl` : the mentions of a shape, listed one after another.
* `ShapeGraph.walks_exact` : what the walks through a type graph find, and in which order.
-/

namespace Schemata

open Relation

namespace Walk

variable {κ : Type}

/-- The recursive walk from a list of vertices, left to right.  It starts with the vertices `seen`
and ends with `found`. -/
inductive Tour (next : κ → List κ) : (roots seen found : List κ) → Prop
  | done (seen : List κ) : Tour next [] seen seen
  | pass {vertex : κ} {rest seen found : List κ} (old : vertex ∈ seen)
      (onward : Tour next rest seen found) : Tour next (vertex :: rest) seen found
  | enter {vertex : κ} {rest seen below found : List κ} (new : vertex ∉ seen)
      (downward : Tour next (next vertex) (seen ++ [vertex]) below)
      (onward : Tour next rest below found) : Tour next (vertex :: rest) seen found

/-- A recursive walk has one end at most. -/
theorem Tour.unique {next : κ → List κ} {roots seen found found' : List κ}
    (tour : Tour next roots seen found) (tour' : Tour next roots seen found') : found = found' := by
  induction tour generalizing found' with
  | done seen => cases tour'; rfl
  | pass old onward ih =>
    cases tour' with
    | pass old onward' => exact ih onward'
    | enter new downward' onward' => exact absurd old new
  | enter new downward onward ihDown ih =>
    cases tour' with
    | pass old onward' => exact absurd old new
    | enter new downward' onward' =>
      obtain rfl := ihDown downward'
      exact ih onward'

/-- What a recursive walk does with the first of its vertices ends before it comes to the others. -/
theorem Tour.split {next : κ → List κ} (top : List κ) {rest seen found : List κ}
    (tour : Tour next (top ++ rest) seen found) :
    ∃ below, Tour next top seen below ∧ Tour next rest below found := by
  induction top generalizing seen with
  | nil => exact ⟨seen, .done seen, tour⟩
  | cons vertex top ih =>
    cases tour with
    | pass old onward =>
      obtain ⟨below, first, others⟩ := ih onward
      exact ⟨below, .pass old first, others⟩
    | enter new downward onward =>
      obtain ⟨below, first, others⟩ := ih onward
      exact ⟨below, .enter new downward first, others⟩

variable [DecidableEq κ] {edges : Edges κ}

/-- The walk with a stack takes the turns of the recursive one. -/
theorem tour_visit {next : κ → List κ} (same : ∀ vertex, successors edges vertex = next vertex)
    (roots seen : List κ) : Tour next roots seen (visit edges roots seen) := by
  fun_induction visit edges roots seen with
  | case1 seen => exact .done seen
  | case2 seen vertex rest old ih => exact .pass old ih
  | case3 seen vertex rest new ih =>
    -- The successors lie on top of the stack.
    obtain ⟨below, downward, onward⟩ := ih.split (successors edges vertex)
    rw [same] at downward
    exact .enter new downward onward

/-- The recursive walk ends, with what the walk with a stack finds. -/
theorem tour_iff {next : κ → List κ} (same : ∀ vertex, successors edges vertex = next vertex)
    {roots found : List κ} : Tour next roots [] found ↔ found = preorder edges roots := by
  constructor
  · exact fun tour => tour.unique (tour_visit same roots [])
  · rintro rfl
    exact tour_visit same roots []

/-! ### Checks that are made twice -/

theorem visit_append_of_subset {old seen : List κ} (subset : old ⊆ seen) (rest : List κ) :
    visit edges (old ++ rest) seen = visit edges rest seen := by
  induction old with
  | nil => rfl
  | cons vertex old ih =>
    obtain ⟨here, later⟩ := List.cons_subset.mp subset
    rw [List.cons_append, visit, if_pos here, ih later]

/-- Two stacks lead to the same if they differ only by vertices that were seen. -/
theorem visit_eq_of_filter_eq {stack stack' seen : List κ}
    (same : stack.filter (· ∉ seen) = stack'.filter (· ∉ seen)) :
    visit edges stack seen = visit edges stack' seen := by
  fun_induction visit edges stack seen generalizing stack' with
  | case1 seen =>
    have old : stack' ⊆ seen := fun vertex member => by
      simpa using List.filter_eq_nil_iff.mp same.symm vertex member
    rw [← List.append_nil stack', visit_append_of_subset old, visit]
  | case2 seen vertex rest old ih => exact ih (by simpa [old] using same)
  | case3 seen vertex rest new ih =>
    -- The other stack comes to the vertex as well, after others that were seen.
    rw [List.filter_cons_of_pos (by simpa using new)] at same
    obtain ⟨before, rest', rfl, skipped, -, same⟩ := List.filter_eq_cons_iff.mp same.symm
    have old : before ⊆ seen := fun other member => by simpa using skipped other member
    rw [visit_append_of_subset old, visit, if_neg new]
    refine ih ?_
    have apart (stack : List κ) : stack.filter (· ∉ seen ++ [vertex])
        = (stack.filter (· ∉ seen)).filter (· ≠ vertex) := by
      rw [List.filter_filter]
      exact List.filter_congr fun other _ => by simp [and_comm]
    rw [List.filter_append, List.filter_append, apart rest, apart rest', same]

/-- Successors that were seen can be left off the stack. -/
theorem visit_cons_of_not_mem {vertex : κ} {seen : List κ} (new : vertex ∉ seen) (rest : List κ) :
    visit edges (vertex :: rest) seen
      = visit edges ((successors edges vertex).filter (· ∉ seen ++ [vertex]) ++ rest)
          (seen ++ [vertex]) := by
  rw [visit, if_neg new]
  refine visit_eq_of_filter_eq ?_
  rw [List.filter_append, List.filter_append, List.filter_filter]
  simp

/-- In a list without repetitions, it makes no difference if only what was not listed yet is
added. -/
theorem foldl_add_eq_filter (keep : κ → Bool) {met listed : List κ} (distinct : met.Nodup)
    (new : ∀ vertex ∈ met, vertex ∉ listed) :
    met.foldl (fun listed vertex =>
        if keep vertex && !listed.contains vertex then listed ++ [vertex] else listed) listed
      = listed ++ met.filter keep := by
  induction met generalizing listed with
  | nil => simp
  | cons vertex met ih =>
    obtain ⟨apart, distinct⟩ := List.nodup_cons.mp distinct
    obtain ⟨here, later⟩ := List.forall_mem_cons.mp new
    cases kept : keep vertex with
    | false => simpa [kept] using ih distinct later
    | true =>
      have later' : ∀ other ∈ met, other ∉ listed ++ [vertex] := fun other member old => by
        rcases List.mem_append.mp old with old | same
        · exact later other member old
        · exact apart (List.mem_singleton.mp same ▸ member)
      simpa [kept, here] using ih distinct later'

end Walk

namespace ShapeGraph

variable (g : ShapeGraph)

/-- Children lead from `a` to `b` in one step or more, and no id in between is declared. -/
def AnonymousPath (a b : ShapeId) : Prop :=
  ∃ between : List ShapeId, (∀ id ∈ between, g.isDeclared id = false) ∧
    List.IsChain g.Child (a :: (between ++ [b]))

/-- The children of an id that is not declared. -/
def anonymousChildren (id : ShapeId) : List ShapeId :=
  if g.isDeclared id then [] else g.childrenOf id

variable {g}

theorem AnonymousPath.single {a b : ShapeId} (step : g.Child a b) : g.AnonymousPath a b :=
  ⟨[], by simp, by simpa using step⟩

theorem AnonymousPath.cons {a b c : ShapeId} (step : g.Child a b)
    (anonymous : g.isDeclared b = false) (path : g.AnonymousPath b c) : g.AnonymousPath a c := by
  obtain ⟨between, undeclared, chain⟩ := path
  exact ⟨b :: between, List.forall_mem_cons.mpr ⟨anonymous, undeclared⟩, chain.cons_cons step⟩

/-- The mentions of a shape are the declarations that anonymous paths lead to. -/
theorem mem_references_iff_path {a b : ShapeId} :
    b ∈ g.references a ↔ g.isDeclared b ∧ g.AnonymousPath a b := by
  rw [mem_references_iff]
  refine and_congr_right fun _ => ⟨?_, ?_⟩
  · rintro ⟨child, step, path⟩
    induction path using ReflTransGen.head_induction_on generalizing a with
    | refl => exact .single step
    | head first _ ih => exact .cons step first.1 (ih first.2)
  · rintro ⟨between, undeclared, chain⟩
    induction between generalizing a with
    | nil => exact ⟨b, by simpa using chain, .refl⟩
    | cons child between ih =>
      obtain ⟨anonymous, undeclared⟩ := List.forall_mem_cons.mp undeclared
      obtain ⟨step, chain⟩ := List.isChain_cons_cons.mp chain
      obtain ⟨next, step', path⟩ := ih undeclared chain
      exact ⟨child, step, .head ⟨anonymous, step'⟩ path⟩

/-- The mentions of a shape, listed one after another as the walk meets them: it makes no difference
if each is looked for first among those that were listed already. -/
theorem references_eq_foldl (g : ShapeGraph) (id : ShapeId) :
    g.references id = (Walk.preorder g.anonymousEdges (g.childrenOf id)).foldl
      (fun listed other =>
        if g.isDeclared other && !listed.contains other then listed ++ [other] else listed) [] :=
  (Walk.foldl_add_eq_filter g.isDeclared (Walk.nodup_preorder ..) fun _ _ => List.not_mem_nil).symm

/-- In every graph, cyclic or not, the walk from a list of roots ends.  It finds each id once, those
that children lead to from a root in any number of steps, in the order of the recursive walk.  The
declarations that an id mentions are listed once each, those that children lead to in one step or
more past undeclared ids, in the order in which the recursive walk that stops at declared ids meets
them. -/
theorem walks_exact (g : ShapeGraph) :
    (∀ roots,
      (∀ found, Walk.Tour g.childrenOf roots [] found ↔ found = g.reachable roots) ∧
      (g.reachable roots).Nodup ∧
      ∀ id, id ∈ g.reachable roots ↔ ∃ root ∈ roots, ReflTransGen g.Child root id) ∧
    ∀ id,
      (∃ met, (∀ found, Walk.Tour g.anonymousChildren (g.childrenOf id) [] found ↔ found = met) ∧
        g.references id = met.filter g.isDeclared) ∧
      (g.references id).Nodup ∧
      ∀ other, other ∈ g.references id ↔ g.isDeclared other ∧ g.AnonymousPath id other := by
  refine ⟨fun roots => ⟨fun found => ?_, ?_, fun id => g.mem_reachable_iff⟩, fun id => ⟨?_, ?_, ?_⟩⟩
  · exact Walk.tour_iff g.successors_edges
  · exact Walk.nodup_preorder ..
  · exact ⟨_, fun found => Walk.tour_iff g.successors_anonymousEdges, rfl⟩
  · exact (Walk.nodup_preorder ..).filter _
  · exact fun other => mem_references_iff_path

end ShapeGraph

end Schemata
