import Schemata.Proofs.Shape.Graph
import Schemata.Proofs.Walk.Components
import Schemata.Shape.Cycle

/-!
# Cycles of mentions

Two declarations are on a common cycle exactly when paths of mentions lead from each to the other:
they are in one component then, and a component with two members, or with one that mentions itself,
has a cycle through all its members.  So the index of cycles depends on nothing but mentions, and
graphs that agree on a set of ids which no child leaves have the same cycles there.

## Main results

* `CycleIndex.build_exact` : the search behind the index ends and finds all it looks up, and the
  index says of any two ids whether they are on a common cycle.
* `CycleIndex.sameCycle_iff` : the index in terms of paths.
* `ShapeGraph.Agree.sameCycle_eq` : graphs that agree have the same cycles.
-/

namespace Schemata

open Relation

namespace ShapeGraph

variable {g h : ShapeGraph}

private theorem lookup_map_self {α : Type} (f : ShapeId → α) (ids : List ShapeId) (id : ShapeId) :
    (ids.map fun id => (id, f id)).lookup id = if id ∈ ids then some (f id) else none := by
  induction ids with
  | nil => rfl
  | cons first rest ih =>
    by_cases h : id = first
    · subst h
      simp
    · have hne : (id == first) = false := by simpa using h
      simp [List.lookup_cons, hne, ih, h]

theorem leads_declarationEdges_iff {a b : ShapeId} :
    Walk.Leads g.declarationEdges a b ↔ a ∈ g.declaredIds ∧ g.Mentions a b := by
  unfold Walk.Leads Walk.successors declarationEdges Mentions
  rw [lookup_map_self]
  by_cases h : a ∈ g.declaredIds <;> simp [h]

/-- Mentions lead from declarations to declarations, so a walk along the edges of declarations is a
walk along mentions. -/
theorem Filed.reflTransGen_leads_iff (filed : g.Filed) {a b : ShapeId} (declared : g.isDeclared a) :
    ReflTransGen (Walk.Leads g.declarationEdges) a b ↔ ReflTransGen g.Mentions a b := by
  constructor
  · exact ReflTransGen.mono (fun _ _ step => (leads_declarationEdges_iff.mp step).2) a b
  · intro path
    induction path using ReflTransGen.head_induction_on with
    | refl => exact .refl
    | head step _ ih =>
      have listed := filed.mem_declaredIds_iff.mpr declared
      exact .head (leads_declarationEdges_iff.mpr ⟨listed, step⟩)
        (ih (g.isDeclared_of_mentions step))

end ShapeGraph

namespace CycleIndex

/-! ### The index of a list of components -/

section OfComponents

variable {edges : Walk.Edges ShapeId} {components : List (List ShapeId)}
  (h : Walk.Components edges components) {a b : ShapeId}

include h

/-- An id is in one component only. -/
theorem place_unique {m n : Nat} {members others : List ShapeId}
    (found : components[m]? = some members) (found' : components[n]? = some others)
    (ha : a ∈ members) (ha' : a ∈ others) : m = n := by
  obtain ⟨hm, rfl⟩ := List.getElem?_eq_some_iff.mp found
  obtain ⟨hn, rfl⟩ := List.getElem?_eq_some_iff.mp found'
  have apart := List.pairwise_iff_getElem.mp (List.nodup_flatten.mp h.nodup_flatten).2
  rcases Nat.lt_trichotomy m n with lt | same | lt
  · exact (apart m n hm hn lt ha ha').elim
  · exact same
  · exact (apart n m hn hm lt ha' ha).elim

theorem get?_component_iff {n : Nat} :
    (ofComponents edges components).component.get? a = some n ↔
      ∃ members, components[n]? = some members ∧ a ∈ members := by
  have listed (n : Nat) :
      (a, n) ∈ (components.zipIdx.flatMap fun e => e.1.map fun member => (member, e.2)) ↔
        ∃ members, components[n]? = some members ∧ a ∈ members := by
    simp [List.mem_flatMap, List.mem_zipIdx_iff_getElem?]
  rw [← listed]
  constructor
  · intro found
    rw [ofComponents, OrderedMap.get?_ofList] at found
    obtain ⟨before, after, split, -⟩ := List.lookup_eq_some_iff.mp found
    rw [← List.mem_reverse, split]
    exact List.mem_append_right _ List.mem_cons_self
  · intro entry
    obtain ⟨m, found, entry'⟩ := OrderedMap.exists_get?_ofList (List.mem_map_of_mem entry)
    obtain ⟨members, place, ha⟩ := (listed n).mp entry
    obtain ⟨others, place', ha'⟩ := (listed m).mp entry'
    rwa [place_unique h place place' ha ha']

variable (all : ∀ v, v ∈ Walk.vertices edges ↔ v ∈ components.flatten)

include all

/-- A single member that lies on a cycle mentions itself: all of the cycle is in the component. -/
theorem leads_self_of_cycle (listed : [a] ∈ components)
    (cycle : TransGen (Walk.Leads edges) a a) : Walk.Leads edges a a := by
  have vertex : a ∈ Walk.vertices edges :=
    (all a).mpr (List.mem_flatten_of_mem listed (List.mem_singleton.mpr rfl))
  obtain ⟨next, edge, rest⟩ := TransGen.head'_iff.mp cycle
  obtain ⟨members, listed', ha, hnext⟩ := (h.exists_mem_iff all vertex
    (Walk.mem_vertices_of_path rest vertex)).mpr ⟨.single edge, rest⟩
  obtain ⟨m, place⟩ := List.mem_iff_getElem?.mp listed
  obtain ⟨n, place'⟩ := List.mem_iff_getElem?.mp listed'
  have same := place_unique h place place' (List.mem_singleton.mpr rfl) ha
  obtain rfl : [a] = members := Option.some.inj (place.symm.trans (same ▸ place'))
  rwa [List.mem_singleton.mp hnext] at edge

/-- A component is cyclic when paths with at least one edge lead from each member to each. -/
theorem isCyclic_iff {members : List ShapeId} (listed : members ∈ components) (ha : a ∈ members)
    (hb : b ∈ members) : isCyclic edges members ↔
      TransGen (Walk.Leads edges) a b ∧ TransGen (Walk.Leads edges) b a := by
  have distinct := h.nodup_of_mem listed
  match members with
  | [member] =>
    obtain rfl := List.mem_singleton.mp ha
    obtain rfl := List.mem_singleton.mp hb
    exact List.contains_iff_mem.trans
      ⟨fun edge => ⟨.single edge, .single edge⟩, fun cycle =>
        leads_self_of_cycle h all listed cycle.1⟩
  | first :: second :: others =>
    have path {c d : ShapeId} (hc : c ∈ first :: second :: others)
        (hd : d ∈ first :: second :: others) : TransGen (Walk.Leads edges) c d := by
      -- some member is not `c`, and the path there and on has an edge
      obtain ⟨e, he, other⟩ : ∃ e ∈ first :: second :: others, e ≠ c := by
        by_cases same : first = c
        · refine ⟨second, by simp, ?_⟩
          rintro rfl
          exact (List.nodup_cons.mp distinct).1 (same ▸ List.mem_cons_self)
        · exact ⟨first, List.mem_cons_self, same⟩
      have start := (reflTransGen_iff_eq_or_transGen.mp (h.connected listed hc he)).resolve_left
        other
      exact start.trans_left (h.connected listed he hd)
    exact ⟨fun _ => ⟨path ha hb, path hb ha⟩, fun _ => rfl⟩

theorem sameCycle_ofComponents_iff : (ofComponents edges components).sameCycle a b ↔
    TransGen (Walk.Leads edges) a b ∧ TransGen (Walk.Leads edges) b a := by
  have cyclic {n : Nat} {members : List ShapeId} (place : components[n]? = some members) :
      (ofComponents edges components).cyclic.getD n false = isCyclic edges members := by
    simp [ofComponents, place]
  constructor
  · intro same
    unfold sameCycle at same
    split at same
    case h_2 => contradiction
    case h_1 m n found found' =>
      obtain ⟨members, place, ha⟩ := (get?_component_iff h).mp found
      obtain ⟨others, place', hb⟩ := (get?_component_iff h).mp found'
      rw [cyclic place, Bool.and_eq_true, decide_eq_true_iff] at same
      obtain ⟨rfl, isCyclic⟩ := same
      obtain rfl : members = others := Option.some.inj (place.symm.trans place')
      exact (isCyclic_iff h all (List.mem_of_getElem? place) ha hb).mp isCyclic
  · rintro ⟨forth, back⟩
    have vertex {c d : ShapeId} (path : TransGen (Walk.Leads edges) c d) :
        c ∈ Walk.vertices edges := by
      obtain ⟨next, edge, -⟩ := TransGen.head'_iff.mp path
      exact Walk.mem_vertices_of_leads edge
    obtain ⟨members, listed, ha, hb⟩ := (h.exists_mem_iff all (vertex forth) (vertex back)).mpr
      ⟨forth.to_reflTransGen, back.to_reflTransGen⟩
    obtain ⟨n, place⟩ := List.mem_iff_getElem?.mp listed
    unfold sameCycle
    rw [(get?_component_iff h).mpr ⟨members, place, ha⟩,
      (get?_component_iff h).mpr ⟨members, place, hb⟩]
    dsimp only
    rw [cyclic place, (isCyclic_iff h all listed ha hb).mpr ⟨forth, back⟩]
    simp

end OfComponents

/-! ### The index of a graph -/

variable {g : ShapeGraph}

theorem exists_build_eq (g : ShapeGraph) :
    ∃ components, build g = ofComponents g.declarationEdges components ∧
      Walk.components? g.declarationEdges = some components ∧
      Walk.Components g.declarationEdges components ∧
      ∀ v, v ∈ Walk.vertices g.declarationEdges ↔ v ∈ components.flatten := by
  obtain ⟨components, found, h, all⟩ := Walk.exists_components? g.declarationEdges
  refine ⟨components, ?_, found, h, all⟩
  simp only [build, found, Option.getD_some]

theorem build_sameCycle_iff {a b : ShapeId} : (build g).sameCycle a b ↔
    TransGen (Walk.Leads g.declarationEdges) a b ∧
      TransGen (Walk.Leads g.declarationEdges) b a := by
  obtain ⟨components, built, -, h, all⟩ := exists_build_eq g
  rw [built]
  exact sameCycle_ofComponents_iff h all

theorem lt_length_cyclic {a : ShapeId} {n : Nat} (place : (build g).component.get? a = some n) :
    n < (build g).cyclic.length := by
  obtain ⟨components, built, -, h, -⟩ := exists_build_eq g
  rw [built] at place ⊢
  obtain ⟨members, listed, -⟩ := (get?_component_iff h).mp place
  exact List.length_map (isCyclic _) ▸ (List.getElem?_eq_some_iff.mp listed).1

/-- The index is exact.  The steps of the search come to an end whatever its state, it finds every
number and low link that it looks up, and every component has its entry in the index.  Two ids are
on a common cycle when they are declarations that lead to each other by paths of mentions, and an id
is on a cycle with itself when such a path leads back to it. -/
theorem build_exact (g : ShapeGraph) :
    WellFounded (fun s' s : Walk.Search ShapeId =>
      s.work ≠ [] ∧ s.step g.declarationEdges = some s') ∧
    (∃ components, Walk.components? g.declarationEdges = some components) ∧
    (∀ a n, (build g).component.get? a = some n → n < (build g).cyclic.length) ∧
    ∀ a b, let Refers := fun c d => c ∈ g.declaredIds ∧ g.Mentions c d
      ((build g).sameCycle a b ↔
        (a ∈ g.declaredIds ∧ b ∈ g.declaredIds) ∧ TransGen Refers a b ∧ TransGen Refers b a) ∧
      ((build g).sameCycle a a ↔ TransGen Refers a a) := by
  have leads : Walk.Leads g.declarationEdges = fun c d => c ∈ g.declaredIds ∧ g.Mentions c d :=
    funext fun _ => funext fun _ => propext ShapeGraph.leads_declarationEdges_iff
  obtain ⟨components, -, found, -⟩ := exists_build_eq g
  refine ⟨Walk.Search.wellFounded_step _, ⟨components, found⟩, fun _ _ => lt_length_cyclic,
    fun a b => ⟨?_, ?_⟩⟩
  · rw [build_sameCycle_iff, leads, iff_and_self]
    rintro ⟨forth, back⟩
    obtain ⟨-, ⟨ha, -⟩, -⟩ := TransGen.head'_iff.mp forth
    obtain ⟨-, ⟨hb, -⟩, -⟩ := TransGen.head'_iff.mp back
    exact ⟨ha, hb⟩
  · rw [build_sameCycle_iff, leads, and_self]

/-- Two ids are on a common cycle when both are declared and mentions lead from each to the
other. -/
theorem sameCycle_iff (filed : g.Filed) {a b : ShapeId} :
    (build g).sameCycle a b ↔
      (g.isDeclared a ∧ g.isDeclared b) ∧ TransGen g.Mentions a b ∧ TransGen g.Mentions b a := by
  have transGen_iff (a b : ShapeId) : TransGen (Walk.Leads g.declarationEdges) a b ↔
      g.isDeclared a ∧ TransGen g.Mentions a b := by
    rw [TransGen.head'_iff, TransGen.head'_iff, ← exists_and_left]
    refine exists_congr fun next => ?_
    rw [ShapeGraph.leads_declarationEdges_iff, filed.mem_declaredIds_iff, and_assoc]
    refine and_congr_right fun _ => and_congr_right fun step => ?_
    exact filed.reflTransGen_leads_iff (g.isDeclared_of_mentions step)
  rw [build_sameCycle_iff, transGen_iff, transGen_iff, and_and_and_comm]

end CycleIndex

namespace ShapeGraph.Agree

variable {g h : ShapeGraph} {inside : ShapeId → Prop}

theorem transGen_mentions (agree : Agree g h inside) {a b : ShapeId} (ha : inside a)
    (path : TransGen g.Mentions a b) : TransGen h.Mentions a b := by
  have step_of {c d : ShapeId} (hc : inside c) (step : g.Mentions c d) : h.Mentions c d := by
    unfold Mentions at *
    rwa [← agree.references_eq hc]
  induction path with
  | single step => exact .single (step_of ha step)
  | tail path step ih =>
    have path' := g.reflTransGen_child_of_mentions path.to_reflTransGen
    exact ih.tail (step_of (agree.path_inside ha path') step)

theorem transGen_mentions_iff (agree : Agree g h inside) {a b : ShapeId} (ha : inside a) :
    TransGen g.Mentions a b ↔ TransGen h.Mentions a b :=
  ⟨agree.transGen_mentions ha, agree.symm.transGen_mentions ha⟩

/-- Graphs that agree on a set of ids which no child leaves have the same cycles there. -/
theorem sameCycle_eq (agree : Agree g h inside) (hg : g.Filed) (hh : h.Filed) {a b : ShapeId}
    (ha : inside a) (hb : inside b) :
    (CycleIndex.build g).sameCycle a b = (CycleIndex.build h).sameCycle a b := by
  rw [Bool.eq_iff_iff, CycleIndex.sameCycle_iff hg, CycleIndex.sameCycle_iff hh,
    agree.isDeclared ha, agree.isDeclared hb, agree.transGen_mentions_iff ha,
    agree.transGen_mentions_iff hb]

end ShapeGraph.Agree

end Schemata
