import Mathlib.Data.List.Nodup
import Schemata.Proofs.Walk

/-!
# The order in which a walk leaves vertices

A walk that tells when it leaves a vertex finds the same vertices as one that tells when it enters
them.  A vertex is left when all vertices that its edges lead to have been left or are still open.
From an open vertex a path leads to everything that is entered before it is left.  So the end of an
edge is left before its start, unless a path leads back.

## Main definitions

* `Walk.Stacked` : what holds of the steps that a walk has still to take.

## Main results

* `Walk.postorder_perm_preorder` : both walks find the same vertices.
* `Walk.nodup_preorder` : each of them once.
* `Walk.sublist_postorder` : the end of an edge comes before its start, cycles apart.
-/

namespace Schemata.Walk

open Relation

variable {κ : Type} {edges : Edges κ}

namespace Step

/-- The vertex that is entered or left. -/
def vertex : Step κ → κ
  | enter vertex => vertex
  | leave vertex => vertex

/-- The vertex that is entered. -/
def enter? : Step κ → Option κ
  | enter vertex => some vertex
  | leave _ => none

/-- The vertex that is left. -/
def leave? : Step κ → Option κ
  | enter _ => none
  | leave vertex => some vertex

theorem filterMap_enter?_map (vertices : List κ) :
    (vertices.map Step.enter).filterMap enter? = vertices := by
  rw [List.filterMap_map]
  exact List.filterMap_some

theorem filterMap_leave?_map (vertices : List κ) :
    (vertices.map Step.enter).filterMap leave? = [] := by
  rw [List.filterMap_map]
  exact List.filterMap_none vertices

end Step

variable [DecidableEq κ]

/-! ### The same vertices -/

theorem nodup_visit {stack seen : List κ} (distinct : seen.Nodup) :
    (visit edges stack seen).Nodup := by
  fun_induction visit edges stack seen with
  | case1 => exact distinct
  | case2 seen first rest _ ih => exact ih distinct
  | case3 seen first rest new ih => exact ih (List.nodup_append.mpr ⟨distinct, by simp, by grind⟩)

/-- A walk finds each vertex once. -/
theorem nodup_preorder (edges : Edges κ) (roots : List κ) : (preorder edges roots).Nodup :=
  nodup_visit List.nodup_nil

/-- The vertices seen are still those left and those open when a vertex is entered. -/
theorem entered_perm {rest : List (Step κ)} {seen left : List κ} {vertex : κ}
    (open_or_left : (left ++ rest.filterMap Step.leave?).Perm seen) :
    (left ++ ((successors edges vertex).map Step.enter ++ .leave vertex :: rest).filterMap
      Step.leave?).Perm (seen ++ [vertex]) := by
  rw [List.filterMap_append, Step.filterMap_leave?_map, List.nil_append]
  have opened : (left ++ vertex :: rest.filterMap Step.leave?).Perm
      (vertex :: (left ++ rest.filterMap Step.leave?)) := List.perm_middle
  have last : (vertex :: seen).Perm (seen ++ [vertex]) :=
    (List.perm_append_singleton vertex seen).symm
  exact opened.trans ((open_or_left.cons vertex).trans last)

/-- If the vertices seen are those left and those open, a walk that leaves its vertices ends with
those that a walk finds from the same state. -/
theorem depart_perm_visit {stack : List (Step κ)} {seen left : List κ}
    (open_or_left : (left ++ stack.filterMap Step.leave?).Perm seen) :
    (depart edges stack seen left).Perm (visit edges (stack.filterMap Step.enter?) seen) := by
  fun_induction depart edges stack seen left with
  | case1 seen left =>
    rw [List.filterMap_nil, visit]
    simpa using open_or_left
  | case2 seen left vertex rest ih =>
    refine ih ?_
    simpa [Step.leave?] using open_or_left
  | case3 seen left vertex rest old ih =>
    have same : visit edges ((Step.enter vertex :: rest).filterMap Step.enter?) seen
        = visit edges (rest.filterMap Step.enter?) seen := by
      change visit edges (vertex :: rest.filterMap Step.enter?) seen = _
      rw [visit, if_pos old]
    rw [same]
    exact ih open_or_left
  | case4 seen left vertex rest new ih =>
    have same : visit edges ((Step.enter vertex :: rest).filterMap Step.enter?) seen
        = visit edges (successors edges vertex ++ rest.filterMap Step.enter?)
          (seen ++ [vertex]) := by
      change visit edges (vertex :: rest.filterMap Step.enter?) seen = _
      rw [visit, if_neg new]
    rw [same]
    have next := ih (entered_perm open_or_left)
    rwa [List.filterMap_append, Step.filterMap_enter?_map] at next

/-- A walk leaves the vertices that it enters. -/
theorem postorder_perm_preorder (edges : Edges κ) (roots : List κ) :
    (postorder edges roots).Perm (preorder edges roots) := by
  have start : ([] ++ (roots.map Step.enter).filterMap Step.leave?).Perm [] := by
    rw [Step.filterMap_leave?_map]
    exact .refl _
  have same : (postorder edges roots).Perm
      (visit edges ((roots.map Step.enter).filterMap Step.enter?) []) := depart_perm_visit start
  rwa [Step.filterMap_enter?_map] at same

/-! ### Their order -/

/-- What holds of a stack of steps below the steps `above`: of each vertex that waits to be left,
the successors are seen or wait above it, and it leads to all vertices of the steps above it. -/
def Stacked (edges : Edges κ) (seen : List κ) (above : List (Step κ)) : List (Step κ) → Prop
  | [] => True
  | step :: rest =>
    (∀ vertex, step = .leave vertex →
      (∀ next, Leads edges vertex next → next ∈ seen ∨ .enter next ∈ above) ∧
      ∀ other ∈ above, ReflTransGen (Leads edges) vertex other.vertex) ∧
    Stacked edges seen (step :: above) rest

namespace Stacked

variable {seen seen' : List κ} {above above' stack : List (Step κ)}

/-- The steps above may change, as long as no vertex is lost that waits to be entered, and all new
ones are led to by old ones. -/
theorem change (h : Stacked edges seen above stack) (grown : seen ⊆ seen')
    (waiting : ∀ next, .enter next ∈ above → next ∈ seen' ∨ .enter next ∈ above')
    (reached : ∀ new ∈ above', ∃ old ∈ above,
      ReflTransGen (Leads edges) old.vertex new.vertex) :
    Stacked edges seen' above' stack := by
  induction stack generalizing above above' with
  | nil => trivial
  | cons step rest ih =>
    obtain ⟨left, below⟩ := h
    constructor
    · intro vertex same
      obtain ⟨next, leads⟩ := left vertex same
      constructor
      · intro b edge
        rcases next b edge with old | waits
        · exact Or.inl (grown old)
        · exact waiting b waits
      · intro new member
        obtain ⟨old, listed, path⟩ := reached new member
        exact (leads old listed).trans path
    · refine ih below (fun b member => ?_) fun new member => ?_
      · rcases List.mem_cons.mp member with same | member
        · exact Or.inr (same ▸ List.mem_cons_self)
        · exact (waiting b member).imp_right (List.mem_cons_of_mem _)
      · rcases List.mem_cons.mp member with rfl | member
        · exact ⟨_, List.mem_cons_self, .refl⟩
        · obtain ⟨old, listed, path⟩ := reached new member
          exact ⟨old, List.mem_cons_of_mem _ listed, path⟩

/-- A vertex that waits to be left leads to all that is above it. -/
theorem leads (h : Stacked edges seen above stack) {vertex : κ} (opened : .leave vertex ∈ stack)
    {step : Step κ} (member : step ∈ above) :
    ReflTransGen (Leads edges) vertex step.vertex := by
  induction stack generalizing above with
  | nil => cases opened
  | cons first rest ih =>
    rcases List.mem_cons.mp opened with same | later
    · exact (h.1 vertex same.symm).2 step member
    · exact ih h.2 later (List.mem_cons_of_mem _ member)

/-- Vertices that wait to be entered need nothing. -/
theorem enter (vertices : List κ)
    (h : Stacked edges seen ((vertices.map Step.enter).reverse ++ above) stack) :
    Stacked edges seen above (vertices.map .enter ++ stack) := by
  induction vertices generalizing above with
  | nil => exact h
  | cons first rest ih =>
    refine ⟨fun _ same => absurd same nofun, ih ?_⟩
    simpa using h

/-- The state after a vertex is entered. -/
theorem opened {vertex : κ} {rest : List (Step κ)}
    (h : Stacked edges seen [] (.enter vertex :: rest)) :
    Stacked edges (seen ++ [vertex]) []
      ((successors edges vertex).map .enter ++ .leave vertex :: rest) := by
  refine enter _ ⟨fun other same => ?_, h.2.change (List.subset_append_left _ _) ?_ ?_⟩
  · cases same
    refine ⟨fun next edge => Or.inr ?_, fun step member => ?_⟩
    · simpa [Leads] using edge
    · obtain ⟨next, edge, rfl⟩ : ∃ next ∈ successors edges vertex, Step.enter next = step := by
        simpa using member
      exact .single edge
  · intro next member
    obtain rfl : next = vertex := by simpa using member
    exact Or.inl (by simp)
  · intro step member
    refine ⟨.enter vertex, List.mem_cons_self, ?_⟩
    obtain rfl | ⟨next, edge, rfl⟩ : step = .leave vertex ∨
        ∃ next ∈ successors edges vertex, Step.enter next = step := by simpa using member
    · exact .refl
    · exact .single edge

end Stacked

/-- Of the vertices that have been left, the end of each edge comes before its start, or a path
leads back. -/
def LeftInOrder (edges : Edges κ) (left : List κ) : Prop :=
  ∀ a ∈ left, ∀ b, Leads edges a b → [b, a].Sublist left ∨ ReflTransGen (Leads edges) b a

theorem LeftInOrder.append {left : List κ} (h : LeftInOrder edges left) {vertex : κ}
    (ready : ∀ b, Leads edges vertex b → b ∈ left ∨ ReflTransGen (Leads edges) b vertex) :
    LeftInOrder edges (left ++ [vertex]) := by
  intro a member b edge
  rcases List.mem_append.mp member with old | new
  · exact (h a old b edge).imp_left fun before => before.trans (List.sublist_append_left _ _)
  · obtain rfl := List.mem_singleton.mp new
    refine (ready b edge).imp_left fun old => ?_
    exact (List.singleton_sublist.mpr old).append (List.Sublist.refl [a])

theorem depart_leftInOrder {stack : List (Step κ)} {seen left : List κ}
    (open_or_left : (left ++ stack.filterMap Step.leave?).Perm seen)
    (stacked : Stacked edges seen [] stack) (ordered : LeftInOrder edges left) :
    LeftInOrder edges (depart edges stack seen left) := by
  fun_induction depart edges stack seen left with
  | case1 => exact ordered
  | case2 seen left vertex rest ih =>
    have split : (left ++ vertex :: rest.filterMap Step.leave?).Perm seen := open_or_left
    refine ih (by simpa using split) ?_ (ordered.append fun b edge => ?_)
    · exact stacked.2.change (List.Subset.refl _) (fun _ member => by simp at member) (by simp)
    · -- All successors are seen; those not left yet are open below the vertex.
      have found : b ∈ seen := ((stacked.1 vertex rfl).1 b edge).resolve_right (by simp)
      rcases List.mem_append.mp (split.mem_iff.mpr found) with old | still
      · exact Or.inl old
      · right
        rcases List.mem_cons.mp still with rfl | below
        · exact .refl
        · obtain ⟨step, member, same⟩ := List.mem_filterMap.mp below
          cases step with
          | enter => cases same
          | leave other =>
            cases same
            exact stacked.2.leads member List.mem_cons_self
  | case3 seen left vertex rest old ih =>
    have below : Stacked edges seen [] rest := by
      refine stacked.2.change (List.Subset.refl _) (fun next member => ?_) (by simp)
      obtain rfl : next = vertex := by simpa using member
      exact Or.inl old
    exact ih open_or_left below ordered
  | case4 seen left vertex rest new ih =>
    exact ih (entered_perm open_or_left) stacked.opened ordered

/-- The end of an edge is left before its start, unless a path leads back. -/
theorem sublist_postorder {roots : List κ} {a b : κ} (found : a ∈ postorder edges roots)
    (edge : Leads edges a b) (oneWay : ¬ ReflTransGen (Leads edges) b a) :
    [b, a].Sublist (postorder edges roots) := by
  have ordered : LeftInOrder edges (postorder edges roots) := by
    have start : Stacked edges [] [] (roots.map .enter ++ []) := Stacked.enter roots trivial
    rw [List.append_nil] at start
    refine depart_leftInOrder ?_ start fun _ member => nomatch member
    rw [Step.filterMap_leave?_map]
    exact .refl _
  exact (ordered a found b edge).resolve_right oneWay

end Schemata.Walk
