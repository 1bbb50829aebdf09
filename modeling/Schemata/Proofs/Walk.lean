import Mathlib.Logic.Relation
import Schemata.Walk

/-!
# What walks find

A walk finds exactly the vertices that some path leads to, and it looks at the successors of these
vertices only.  So two graphs that agree on a set of vertices which no edge leaves have the same
walks from inside that set.

## Main definitions

* `Walk.Leads` : one step along an edge.

## Main results

* `Walk.mem_preorder_iff` : a walk finds what paths from its roots lead to.
* `Walk.preorder_congr` : a walk depends on the successors of what it finds only.
-/

namespace Schemata.Walk

open Relation

variable {κ : Type} [DecidableEq κ]

/-- An edge leads from `a` to `b`. -/
def Leads (edges : Edges κ) (a b : κ) : Prop :=
  b ∈ successors edges a

section Found

variable {edges : Edges κ}

/-- Whatever is seen already stays seen. -/
theorem mem_visit_of_mem_seen {stack seen : List κ} {vertex : κ} (h : vertex ∈ seen) :
    vertex ∈ visit edges stack seen := by
  fun_induction visit edges stack seen with
  | case1 => exact h
  | case2 seen first rest _ ih => exact ih h
  | case3 seen first rest _ ih => exact ih (List.mem_append_left _ h)

theorem mem_visit_of_mem_stack {stack seen : List κ} {vertex : κ} (h : vertex ∈ stack) :
    vertex ∈ visit edges stack seen := by
  fun_induction visit edges stack seen with
  | case1 => simp at h
  | case2 seen first rest old ih =>
    rcases List.mem_cons.mp h with rfl | h
    · exact mem_visit_of_mem_seen old
    · exact ih h
  | case3 seen first rest _ ih =>
    rcases List.mem_cons.mp h with rfl | h
    · exact mem_visit_of_mem_seen (by simp)
    · exact ih (List.mem_append_right _ h)

/-- A walk finds nothing that no path leads to. -/
theorem exists_path_of_mem_visit {stack seen : List κ} {vertex : κ}
    (h : vertex ∈ visit edges stack seen) :
    vertex ∈ seen ∨ ∃ root ∈ stack, ReflTransGen (Leads edges) root vertex := by
  fun_induction visit edges stack seen with
  | case1 => exact Or.inl h
  | case2 seen first rest _ ih =>
    refine (ih h).imp_right ?_
    rintro ⟨root, hroot, path⟩
    exact ⟨root, List.mem_cons_of_mem _ hroot, path⟩
  | case3 seen first rest _ ih =>
    rcases ih h with old | ⟨root, hroot, path⟩
    · rcases List.mem_append.mp old with old | new
      · exact Or.inl old
      · exact Or.inr ⟨first, List.mem_cons_self, List.mem_singleton.mp new ▸ .refl⟩
    · rcases List.mem_append.mp hroot with step | later
      · exact Or.inr ⟨first, List.mem_cons_self, .head step path⟩
      · exact Or.inr ⟨root, List.mem_cons_of_mem _ later, path⟩

/-- What is found is closed under edges, if the edges out of `seen` end in `seen` or wait on the
stack. -/
theorem visit_closed {stack seen : List κ}
    (waiting : ∀ a ∈ seen, ∀ b, Leads edges a b → b ∈ seen ∨ b ∈ stack) {a b : κ}
    (found : a ∈ visit edges stack seen) (step : Leads edges a b) :
    b ∈ visit edges stack seen := by
  fun_induction visit edges stack seen with
  | case1 => simpa using waiting a found b step
  | case2 seen first rest old ih =>
    refine ih (fun x hx y hxy => ?_) found
    rcases waiting x hx y hxy with h | h
    · exact Or.inl h
    · rcases List.mem_cons.mp h with rfl | h
      · exact Or.inl old
      · exact Or.inr h
  | case3 seen first rest _ ih =>
    refine ih (fun x hx y hxy => ?_) found
    rcases List.mem_append.mp hx with hx | hx
    · rcases waiting x hx y hxy with h | h
      · exact Or.inl (List.mem_append_left _ h)
      · rcases List.mem_cons.mp h with rfl | h
        · exact Or.inl (by simp)
        · exact Or.inr (List.mem_append_right _ h)
    · rw [List.mem_singleton] at hx
      exact Or.inr (List.mem_append_left _ (hx ▸ hxy))

/-- A walk finds exactly what paths from its roots lead to. -/
theorem mem_preorder_iff {roots : List κ} {vertex : κ} :
    vertex ∈ preorder edges roots ↔ ∃ root ∈ roots, ReflTransGen (Leads edges) root vertex := by
  constructor
  · intro h
    simpa using exists_path_of_mem_visit h
  · rintro ⟨root, hroot, path⟩
    induction path with
    | refl => exact mem_visit_of_mem_stack hroot
    | tail _ step ih => exact visit_closed (by simp) ih step

end Found

/-! ### Walks in graphs that agree -/

/-- Two walks are the same if they have the same successors inside a set that they cannot leave. -/
theorem visit_congr {edges edges' : Edges κ} (inside : κ → Prop)
    (same : ∀ a, inside a → successors edges a = successors edges' a)
    (closed : ∀ a, inside a → ∀ b, Leads edges a b → inside b) {stack : List κ}
    (start : ∀ a ∈ stack, inside a) (seen : List κ) :
    visit edges stack seen = visit edges' stack seen := by
  fun_induction visit edges stack seen with
  | case1 => rw [visit]
  | case2 seen first rest old ih =>
    rw [visit, if_pos old]
    exact ih fun a ha => start a (List.mem_cons_of_mem _ ha)
  | case3 seen first rest new ih =>
    have hfirst := start first List.mem_cons_self
    rw [visit, if_neg new, ← same first hfirst]
    refine ih fun a ha => ?_
    rcases List.mem_append.mp ha with step | later
    · exact closed first hfirst a step
    · exact start a (List.mem_cons_of_mem _ later)

theorem preorder_congr {edges edges' : Edges κ} (inside : κ → Prop)
    (same : ∀ a, inside a → successors edges a = successors edges' a)
    (closed : ∀ a, inside a → ∀ b, Leads edges a b → inside b) {roots : List κ}
    (start : ∀ a ∈ roots, inside a) : preorder edges roots = preorder edges' roots :=
  visit_congr inside same closed start []

end Schemata.Walk
