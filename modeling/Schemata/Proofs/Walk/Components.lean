import Mathlib.Data.List.Chain
import Schemata.Proofs.OrderedMap
import Schemata.Proofs.Walk
import Schemata.Walk.Components

/-!
# The search finds the components

What carries the proof is what low links say.  A vertex on the stack leads to the vertex whose
number is its low link; its low link is at most the number of each successor on the stack that was
looked at; and it is at least the low link of the vertex in work above which it lies, the last one
with a smaller number.  So if the low link of a vertex that is left is its own number, no edge leads
from the part of the stack above it to the part below it, and by low links every vertex above it
leads back to it.

## Main definitions

* `Walk.Components` : a list of components, in an order in which edges lead back only.
* `Walk.Search.Ordered`, `Walk.Search.Linked` : what holds of the numbers and of the low links after
  every step.

## Main results

* `Walk.Search.wellFounded_step` : the steps of a search end.
* `Walk.exists_components?` : the search looks nothing up in vain, and finds the components of all
  vertices.
* `Walk.Components.exists_mem_iff` : two vertices are in one component when each leads to the other.
-/

namespace Schemata.Walk

open Relation

variable {κ : Type}

/-! ### Components -/

section Components

variable [DecidableEq κ] {edges : Edges κ}

/-- The members lead to each other, and edges out of them lead to earlier components. -/
structure IsComponent (edges : Edges κ) (before : List (List κ)) (members : List κ) : Prop where
  distinct : members.Nodup
  apart : ∀ a ∈ members, a ∉ before.flatten
  connected : ∀ a ∈ members, ∀ b ∈ members, ReflTransGen (Leads edges) a b
  closed : ∀ a ∈ members, ∀ b ∈ vertices edges, Leads edges a b → b ∈ members ∨ b ∈ before.flatten

/-- Components in an order in which edges lead back only. -/
inductive Components (edges : Edges κ) : List (List κ) → Prop
  | nil : Components edges []
  | snoc {before : List (List κ)} {members : List κ} (earlier : Components edges before)
      (last : IsComponent edges before members) : Components edges (before ++ [members])

theorem mem_vertices_of_leads {a b : κ} (edge : Leads edges a b) : a ∈ vertices edges := by
  unfold Leads successors at edge
  cases found : edges.lookup a with
  | none => simp [found] at edge
  | some targets =>
    obtain ⟨before, after, rfl, -⟩ := List.lookup_eq_some_iff.mp found
    simp [vertices]

theorem mem_vertices_of_path {a b : κ} (path : ReflTransGen (Leads edges) a b)
    (hb : b ∈ vertices edges) : a ∈ vertices edges := by
  cases path using ReflTransGen.head_induction_on with
  | refl => exact hb
  | head edge _ _ => exact mem_vertices_of_leads edge

omit [DecidableEq κ] in
theorem flatten_snoc (before : List (List κ)) (members : List κ) :
    (before ++ [members]).flatten = before.flatten ++ members := by
  simp

namespace Components

variable {components : List (List κ)}

theorem mem_flatten_of_leads (h : Components edges components) {a b : κ}
    (ha : a ∈ components.flatten) (hb : b ∈ vertices edges) (edge : Leads edges a b) :
    b ∈ components.flatten := by
  induction h with
  | nil => cases ha
  | snoc _ last ih =>
    rw [flatten_snoc, List.mem_append] at ha ⊢
    rcases ha with early | late
    · exact Or.inl (ih early)
    · exact (last.closed a late b hb edge).symm

/-- No path leads out of the first components. -/
theorem mem_flatten_of_path (h : Components edges components) {a b : κ}
    (ha : a ∈ components.flatten) (hb : b ∈ vertices edges)
    (path : ReflTransGen (Leads edges) a b) : b ∈ components.flatten := by
  induction path using ReflTransGen.head_induction_on with
  | refl => exact ha
  | head edge rest ih =>
    exact ih (h.mem_flatten_of_leads ha (mem_vertices_of_path rest hb) edge)

theorem nodup_flatten (h : Components edges components) : components.flatten.Nodup := by
  induction h with
  | nil => exact List.nodup_nil
  | snoc _ last ih =>
    rw [flatten_snoc, List.nodup_append]
    exact ⟨ih, last.distinct, fun a early b late same => last.apart b late (same ▸ early)⟩

theorem nodup_of_mem (h : Components edges components) {members : List κ}
    (listed : members ∈ components) : members.Nodup :=
  (List.nodup_flatten.mp h.nodup_flatten).1 members listed

theorem connected (h : Components edges components) {members : List κ}
    (listed : members ∈ components) {a b : κ} (ha : a ∈ members) (hb : b ∈ members) :
    ReflTransGen (Leads edges) a b := by
  induction h with
  | nil => cases listed
  | snoc _ last ih =>
    rcases List.mem_append.mp listed with early | late
    · exact ih early
    · obtain rfl := List.mem_singleton.mp late
      exact last.connected a ha b hb

/-- Two vertices are in one component exactly when each leads to the other. -/
theorem exists_mem_iff (h : Components edges components)
    (all : ∀ v, v ∈ vertices edges ↔ v ∈ components.flatten) {a b : κ}
    (ha : a ∈ vertices edges) (hb : b ∈ vertices edges) :
    (∃ members ∈ components, a ∈ members ∧ b ∈ members) ↔
      ReflTransGen (Leads edges) a b ∧ ReflTransGen (Leads edges) b a := by
  constructor
  · rintro ⟨members, listed, ha, hb⟩
    exact ⟨h.connected listed ha hb, h.connected listed hb ha⟩
  · rintro ⟨forth, back⟩
    replace all := (all a).mp ha
    induction h with
    | nil => cases all
    | snoc earlier last ih =>
      rw [flatten_snoc, List.mem_append] at all
      rcases all with early | late
      · obtain ⟨members, listed, both⟩ := ih early
        exact ⟨members, List.mem_append_left _ listed, both⟩
      · -- The first components cannot be left, so both ends are outside of them.
        have reached := (earlier.snoc last).mem_flatten_of_path
          (List.mem_flatten_of_mem (List.mem_append_right _ (List.mem_singleton.mpr rfl)) late)
          hb forth
        rw [flatten_snoc, List.mem_append] at reached
        refine ⟨_, List.mem_append_right _ (List.mem_singleton.mpr rfl), late, ?_⟩
        exact reached.resolve_left fun early =>
          last.apart a late (earlier.mem_flatten_of_path early ha back)

end Components

end Components

/-! ### Numbers and low links -/

namespace Search

variable [DecidableEq κ] {edges : Edges κ} {s : Search κ} {path : List κ} {waits : κ → κ → Prop}

/-- The vertex was entered. -/
def Entered (s : Search κ) (vertex : κ) : Prop :=
  vertex ∈ s.numbers.keys

/-- The number of a vertex that was entered. -/
def number (s : Search κ) (vertex : κ) : Nat :=
  (s.numbers.get? vertex).getD 0

/-- The low link of a vertex that was entered. -/
def low (s : Search κ) (vertex : κ) : Nat :=
  (s.lowLinks.get? vertex).getD 0

/-- What holds of the numbers while the vertices of `path` are in work: the vertices that were
entered are on the stack or in a component, and the stack and the path go down by numbers. -/
structure Ordered (edges : Edges κ) (path : List κ) (s : Search κ) : Prop where
  listed : ∀ v, s.Entered v → v ∈ vertices edges
  linked : ∀ v, s.Entered v → v ∈ s.lowLinks.keys
  entered : ∀ v, s.Entered v ↔ v ∈ s.stack ∨ v ∈ s.components.flatten
  apart : ∀ v ∈ s.stack, v ∉ s.components.flatten
  numbered : ∀ v ∈ s.stack, s.number v < s.next
  descends : s.stack.Pairwise fun a b => s.number b < s.number a
  pathDescends : path.Pairwise fun a b => s.number b < s.number a
  inWork : ∀ v ∈ path, v ∈ s.stack

/-- The vertex `w` of the path is the last one with a number up to that of `a`, it leads to `a`, and
its low link is not above that of `a`. -/
structure Carries (edges : Edges κ) (path : List κ) (s : Search κ) (w a : κ) : Prop where
  number_le : s.number w ≤ s.number a
  low_le : s.low w ≤ s.low a
  leads : ReflTransGen (Leads edges) w a
  last : ∀ v ∈ path, s.number v ≤ s.number a → s.number v ≤ s.number w

/-- What holds of the low links while the vertices of `path` are in work and the edges `waits` have
not been looked at. -/
structure Linked (edges : Edges κ) (path : List κ) (waits : κ → κ → Prop) (s : Search κ) :
    Prop where
  followed : path.IsChain fun child parent => Leads edges parent child
  looked : ∀ a, s.Entered a → ∀ b ∈ vertices edges, Leads edges a b → s.Entered b ∨ waits a b
  bounded : ∀ a ∈ s.stack, ∀ b ∈ s.stack, Leads edges a b → s.low a ≤ s.number b ∨ waits a b
  low_le : ∀ a ∈ s.stack, s.low a ≤ s.number a
  reached : ∀ a ∈ s.stack, ∃ b ∈ s.stack, s.number b = s.low a ∧ ReflTransGen (Leads edges) a b
  carried : ∀ a ∈ s.stack, ∃ w ∈ path, s.Carries edges path w a
  left : ∀ a ∈ s.stack, a ∉ path → s.low a < s.number a

theorem carries_self (s : Search κ) (v : κ) : s.Carries edges path v v :=
  ⟨Nat.le_refl _, Nat.le_refl _, .refl, fun _ _ h => h⟩

namespace Ordered

theorem get?_numbers (o : s.Ordered edges path) {v : κ} (h : v ∈ s.stack) :
    s.numbers.get? v = some (s.number v) := by
  have entered : s.Entered v := (o.entered v).mpr (Or.inl h)
  obtain ⟨n, found⟩ := Option.isSome_iff_exists.mp (s.numbers.isSome_get?_iff.mpr entered)
  rw [Search.number, found, Option.getD_some]

theorem get?_lowLinks (o : s.Ordered edges path) {v : κ} (h : v ∈ s.stack) :
    s.lowLinks.get? v = some (s.low v) := by
  have linked := o.linked v ((o.entered v).mpr (Or.inl h))
  obtain ⟨n, found⟩ := Option.isSome_iff_exists.mp (s.lowLinks.isSome_get?_iff.mpr linked)
  rw [Search.low, found, Option.getD_some]

theorem nodup_stack (o : s.Ordered edges path) : s.stack.Nodup :=
  o.descends.imp fun lt => by
    rintro rfl
    exact Nat.lt_irrefl _ lt

end Ordered

/-! ### Looking at edges -/

/-- Edges that were looked at need not wait. -/
theorem Linked.look (h : s.Linked edges path waits) {waits' : κ → κ → Prop}
    (looked : ∀ a b, b ∈ vertices edges → waits a b →
      waits' a b ∨ s.Entered b ∧ (b ∈ s.stack → s.low a ≤ s.number b))
    (o : s.Ordered edges path) : s.Linked edges path waits' where
  followed := h.followed
  looked a ha b hb edge := by
    rcases h.looked a ha b hb edge with entered | waiting
    · exact Or.inl entered
    · exact (looked a b hb waiting).symm.imp_left And.left
  bounded a ha b hb edge := by
    rcases h.bounded a ha b hb edge with low | waiting
    · exact Or.inl low
    · have vertex := o.listed b ((o.entered b).mpr (Or.inl hb))
      exact (looked a b vertex waiting).symm.imp_left fun done => done.2 hb
  low_le := h.low_le
  reached := h.reached
  carried := h.carried
  left := h.left

/-! ### Entering a vertex -/

section Enter

variable {t v : κ}

theorem mem_keys_insert {ν : Type} (m : OrderedMap κ ν) (key other : κ) (value : ν) :
    other ∈ (m.insert key value).keys ↔ other = key ∨ other ∈ m.keys := by
  rw [← OrderedMap.isSome_get?_iff, ← OrderedMap.isSome_get?_iff, OrderedMap.get?_insert]
  by_cases same : other = key <;> simp [same]

theorem entered_enter_iff (s : Search κ) (t v : κ) :
    (s.enter edges t).Entered v ↔ v = t ∨ s.Entered v :=
  mem_keys_insert s.numbers t v s.next

theorem number_enter_self (s : Search κ) (t : κ) : (s.enter edges t).number t = s.next := by
  unfold number enter
  rw [OrderedMap.get?_insert_self, Option.getD_some]

theorem low_enter_self (s : Search κ) (t : κ) : (s.enter edges t).low t = s.next := by
  unfold low enter
  rw [OrderedMap.get?_insert_self, Option.getD_some]

variable (o : s.Ordered edges path) (new : ¬ s.Entered t)

include o new

theorem Ordered.ne_of_mem (hv : v ∈ s.stack) : v ≠ t := by
  rintro rfl
  exact new ((o.entered v).mpr (Or.inl hv))

theorem Ordered.number_enter (hv : v ∈ s.stack) : (s.enter edges t).number v = s.number v := by
  unfold Search.number Search.enter
  rw [OrderedMap.get?_insert, if_neg (o.ne_of_mem new hv)]

theorem Ordered.low_enter (hv : v ∈ s.stack) : (s.enter edges t).low v = s.low v := by
  unfold Search.low Search.enter
  rw [OrderedMap.get?_insert, if_neg (o.ne_of_mem new hv)]

theorem Ordered.enter (listed : t ∈ vertices edges) :
    (s.enter edges t).Ordered edges (t :: path) := by
  have number {v : κ} (hv : v ∈ s.stack) := o.number_enter new hv
  have inWork := o.inWork
  refine ⟨?_, ?_, ?_, ?_, ?_, ?_, ?_, ?_⟩
  · intro v entered
    rcases (entered_enter_iff s t v).mp entered with rfl | old
    · exact listed
    · exact o.listed v old
  · intro v entered
    refine (mem_keys_insert s.lowLinks t v s.next).mpr ?_
    exact ((entered_enter_iff s t v).mp entered).imp_right (o.linked v)
  · intro v
    rw [entered_enter_iff, o.entered, ← or_assoc]
    exact or_congr_left List.mem_cons.symm
  · intro v hv
    rcases List.mem_cons.mp hv with rfl | old
    · exact fun done => new ((o.entered v).mpr (Or.inr done))
    · exact o.apart v old
  · intro v hv
    rcases List.mem_cons.mp hv with rfl | old
    · rw [number_enter_self]
      exact Nat.lt_succ_self _
    · rw [number old]
      exact Nat.lt_succ_of_lt (o.numbered v old)
  · refine List.pairwise_cons.mpr ⟨fun v hv => ?_, ?_⟩
    · rw [number hv, number_enter_self]
      exact o.numbered v hv
    · exact o.descends.imp_of_mem fun ha hb lt => by rwa [number ha, number hb]
  · refine List.pairwise_cons.mpr ⟨fun v hv => ?_, ?_⟩
    · rw [number (inWork v hv), number_enter_self]
      exact o.numbered v (inWork v hv)
    · exact o.pathDescends.imp_of_mem fun ha hb lt => by
        rwa [number (inWork _ ha), number (inWork _ hb)]
  · intro v hv
    rcases List.mem_cons.mp hv with rfl | old
    · exact List.mem_cons_self
    · exact List.mem_cons_of_mem _ (inWork v old)

/-- The vertices in work carry the same vertices as before. -/
theorem Ordered.carries_enter {w a : κ} (hw : w ∈ path) (ha : a ∈ s.stack)
    (carries : s.Carries edges path w a) :
    (s.enter edges t).Carries edges (t :: path) w a := by
  have number {v : κ} (hv : v ∈ s.stack) := o.number_enter new hv
  refine ⟨?_, ?_, carries.leads, fun v hv le => ?_⟩
  · rw [number (o.inWork w hw), number ha]
    exact carries.number_le
  · rw [o.low_enter new (o.inWork w hw), o.low_enter new ha]
    exact carries.low_le
  · rw [number ha] at le
    rcases List.mem_cons.mp hv with rfl | old
    · rw [number_enter_self] at le
      exact absurd (o.numbered a ha) (Nat.not_lt.mpr le)
    · rw [number (o.inWork v old)] at le ⊢
      rw [number (o.inWork w hw)]
      exact carries.last v old le

/-- A vertex that is entered comes last, and all its edges wait. -/
theorem Ordered.linked_enter (h : s.Linked edges path waits)
    (edge : ∀ parent ∈ path.head?, Leads edges parent t) :
    (s.enter edges t).Linked edges (t :: path) fun a b =>
      waits a b ∨ a = t ∧ Leads edges a b := by
  have number {v : κ} (hv : v ∈ s.stack) := o.number_enter new hv
  have low {v : κ} (hv : v ∈ s.stack) := o.low_enter new hv
  refine ⟨h.followed.cons edge, ?_, ?_, ?_, ?_, ?_, ?_⟩
  · intro a ha b hb leads
    rcases (entered_enter_iff s t a).mp ha with rfl | old
    · exact Or.inr (Or.inr ⟨rfl, leads⟩)
    · exact (h.looked a old b hb leads).imp (fun entered =>
        (entered_enter_iff s t b).mpr (Or.inr entered)) Or.inl
  · intro a ha b hb leads
    rcases List.mem_cons.mp ha with rfl | oldA
    · exact Or.inr (Or.inr ⟨rfl, leads⟩)
    · rw [low oldA]
      rcases List.mem_cons.mp hb with rfl | oldB
      · left
        rw [number_enter_self]
        exact (h.low_le a oldA).trans (o.numbered a oldA).le
      · rw [number oldB]
        exact (h.bounded a oldA b oldB leads).imp_right Or.inl
  · intro a ha
    rcases List.mem_cons.mp ha with rfl | old
    · rw [low_enter_self, number_enter_self]
    · rw [low old, number old]
      exact h.low_le a old
  · intro a ha
    rcases List.mem_cons.mp ha with rfl | old
    · exact ⟨a, List.mem_cons_self, by rw [number_enter_self, low_enter_self], .refl⟩
    · obtain ⟨b, hb, same, leads⟩ := h.reached a old
      exact ⟨b, List.mem_cons_of_mem _ hb, by rw [number hb, low old, same], leads⟩
  · intro a ha
    rcases List.mem_cons.mp ha with rfl | old
    · exact ⟨a, List.mem_cons_self, carries_self _ a⟩
    · obtain ⟨w, hw, carries⟩ := h.carried a old
      exact ⟨w, List.mem_cons_of_mem _ hw, o.carries_enter new hw old carries⟩
  · intro a ha outside
    rcases List.mem_cons.mp ha with rfl | old
    · exact absurd List.mem_cons_self outside
    · rw [low old, number old]
      exact h.left a old fun hp => outside (List.mem_cons_of_mem _ hp)

end Enter

/-! ### Lowering a low link -/

section Lower

variable {v : κ} {bound : Nat}

/-- The search with a low link lowered to a bound. -/
def lowered (s : Search κ) (v : κ) (bound : Nat) : Search κ :=
  { s with lowLinks := s.lowLinks.insert v (min (s.low v) bound) }

theorem low_lowered (s : Search κ) (v a : κ) (bound : Nat) :
    (s.lowered v bound).low a = if a = v then min (s.low v) bound else s.low a := by
  unfold low lowered
  rw [OrderedMap.get?_insert]
  split <;> rfl

theorem low_lowered_le (s : Search κ) (v a : κ) (bound : Nat) :
    (s.lowered v bound).low a ≤ s.low a := by
  rw [low_lowered]
  split
  · rename_i same
    exact same ▸ Nat.min_le_left _ _
  · exact Nat.le_refl _

theorem Ordered.lower_eq (o : s.Ordered edges path) (hv : v ∈ s.stack) :
    s.lower v bound = some (s.lowered v bound) := by
  rw [lower, o.get?_lowLinks hv]
  rfl

theorem Ordered.lowered (o : s.Ordered edges path) : (s.lowered v bound).Ordered edges path where
  listed := o.listed
  linked a entered := (mem_keys_insert s.lowLinks v a _).mpr (Or.inr (o.linked a entered))
  entered := o.entered
  apart := o.apart
  numbered := o.numbered
  descends := o.descends
  pathDescends := o.pathDescends
  inWork := o.inWork

/-- The low link of a vertex in work may be lowered to the number of any vertex on the stack that it
leads to. -/
theorem Linked.lowered (h : s.Linked edges path waits) (hv : v ∈ path)
    (witness : ∃ b ∈ s.stack, s.number b = bound ∧ ReflTransGen (Leads edges) v b) :
    (s.lowered v bound).Linked edges path waits where
  followed := h.followed
  looked := h.looked
  bounded a ha b hb leads :=
    (h.bounded a ha b hb leads).imp_left (low_lowered_le s v a bound).trans
  low_le a ha := (low_lowered_le s v a bound).trans (h.low_le a ha)
  reached a ha := by
    rw [low_lowered]
    split
    · rename_i same
      subst same
      rcases Nat.le_total (s.low a) bound with le | le
      · rw [Nat.min_eq_left le]
        exact h.reached a ha
      · rw [Nat.min_eq_right le]
        exact witness
    · exact h.reached a ha
  carried a ha := by
    by_cases same : a = v
    · exact ⟨a, same ▸ hv, carries_self _ a⟩
    · obtain ⟨w, hw, carries⟩ := h.carried a ha
      refine ⟨w, hw, carries.number_le, ?_, carries.leads, carries.last⟩
      rw [low_lowered s v a, if_neg same]
      exact (low_lowered_le s v w bound).trans carries.low_le
  left a ha outside := by
    have other : a ≠ v := fun same => outside (same ▸ hv)
    rw [low_lowered, if_neg other]
    exact h.left a ha outside

end Lower

/-! ### Leaving a vertex -/

section Leave

variable {v p : κ} {below : List κ}

theorem Ordered.leave (o : s.Ordered edges (v :: path)) : s.Ordered edges path :=
  { o with
    pathDescends := (List.pairwise_cons.mp o.pathDescends).2
    inWork := fun a ha => o.inWork a (List.mem_cons_of_mem _ ha) }

theorem Ordered.number_lt_top (o : s.Ordered edges (v :: below)) {a : κ} (ha : a ∈ below) :
    s.number a < s.number v :=
  (List.pairwise_cons.mp o.pathDescends).1 a ha

/-- A vertex that is left without a component is carried by the vertex from which it was entered. -/
theorem Linked.leave (h : s.Linked edges (v :: p :: below) waits)
    (o : s.Ordered edges (v :: p :: below)) (passed : s.low p ≤ s.low v)
    (notFirst : s.low v < s.number v) : s.Linked edges (p :: below) waits where
  followed := h.followed.tail
  looked := h.looked
  bounded := h.bounded
  low_le := h.low_le
  reached := h.reached
  carried a ha := by
    obtain ⟨w, hw, carries⟩ := h.carried a ha
    rcases List.mem_cons.mp hw with rfl | old
    · have lower : s.number p < s.number w := o.number_lt_top List.mem_cons_self
      have edge : Leads edges p w := (List.isChain_cons_cons.mp h.followed).1
      refine ⟨p, List.mem_cons_self, lower.le.trans carries.number_le,
        passed.trans carries.low_le, carries.leads.head edge, fun u hu _ => ?_⟩
      rcases List.mem_cons.mp hu with rfl | hu
      · exact Nat.le_refl _
      · exact (o.leave.number_lt_top hu).le
    · exact ⟨w, old, carries.number_le, carries.low_le, carries.leads,
        fun u hu => carries.last u (List.mem_cons_of_mem _ hu)⟩
  left a ha outside := by
    by_cases same : a = v
    · exact same ▸ notFirst
    · exact h.left a ha (List.not_mem_cons_of_ne_of_not_mem same outside)

variable (h : s.Linked edges (v :: below) waits) (o : s.Ordered edges (v :: below)) {a b : κ}

include h o

/-- What is above a vertex in work on top is carried by it. -/
theorem Linked.carries_top (ha : a ∈ s.stack) (above : s.number v ≤ s.number a) :
    s.Carries edges (v :: below) v a := by
  obtain ⟨w, hw, carries⟩ := h.carried a ha
  rcases List.mem_cons.mp hw with rfl | old
  · exact carries
  · have le := carries.last v List.mem_cons_self above
    exact absurd (o.number_lt_top old) (Nat.not_lt.mpr le)

omit h in
theorem Ordered.not_mem_below (above : s.number v ≤ s.number a) : a ∉ below := fun ha =>
  absurd (o.number_lt_top ha) (Nat.not_lt.mpr above)

/-- If a vertex is the first of its component, what is above it leads back to it: a low link leads
to a smaller number, and not below the vertex. -/
theorem Linked.leads_top (first : s.low v = s.number v) (ha : a ∈ s.stack)
    (above : s.number v ≤ s.number a) : ReflTransGen (Leads edges) a v := by
  induction n : s.number a using Nat.strong_induction_on generalizing a with
  | _ n ih =>
    by_cases same : a = v
    · exact same ▸ .refl
    · have less : s.low a < s.number a := h.left a ha
        (List.not_mem_cons_of_ne_of_not_mem same (o.not_mem_below above))
      obtain ⟨b, hb, link, leads⟩ := h.reached a ha
      have above' : s.number v ≤ s.number b := by
        rw [link, ← first]
        exact (h.carries_top o ha above).low_le
      exact leads.trans (ih (s.number b) (n ▸ link ▸ less) hb above' rfl)

/-- If a vertex is the first of its component, no edge leads from above it to below it. -/
theorem Linked.closed_top (first : s.low v = s.number v)
    (done : ∀ a b, waits a b → a ∈ below) (ha : a ∈ s.stack) (above : s.number v ≤ s.number a)
    (hb : b ∈ vertices edges) (edge : Leads edges a b) :
    b ∈ s.stack ∧ s.number v ≤ s.number b ∨ b ∈ s.components.flatten := by
  have looked : ¬ waits a b := fun waiting => o.not_mem_below above (done a b waiting)
  have entered := (h.looked a ((o.entered a).mpr (Or.inl ha)) b hb edge).resolve_right looked
  refine ((o.entered b).mp entered).imp_left fun onStack => ⟨onStack, ?_⟩
  calc s.number v = s.low v := first.symm
    _ ≤ s.low a := (h.carries_top o ha above).low_le
    _ ≤ s.number b := (h.bounded a ha b onStack edge).resolve_right looked

end Leave

/-- The last vertex in work is the first of its component. -/
theorem Linked.low_eq_number {v : κ} (h : s.Linked edges [v] waits) (hv : v ∈ s.stack) :
    s.low v = s.number v := by
  obtain ⟨b, hb, link, -⟩ := h.reached v hv
  obtain ⟨w, hw, carries⟩ := h.carried b hb
  obtain rfl := List.mem_singleton.mp hw
  exact Nat.le_antisymm (h.low_le w hv) (link ▸ carries.number_le)

/-! ### Closing a component -/

section Close

variable {v : κ} {below above rest : List κ}

theorem close_eq (split : s.stack = above ++ v :: rest) (new : v ∉ above) :
    s.close v = { s with
      stack := rest, components := s.components ++ [(above ++ [v]).reverse] } := by
  have others : ∀ a ∈ above, decide (a ≠ v) = true := fun a ha =>
    decide_eq_true fun same => new (same ▸ ha)
  unfold close
  rw [split, List.takeWhile_append_of_pos others, List.dropWhile_append_of_pos others]
  simp

variable (o : s.Ordered edges (v :: below)) (split : s.stack = above ++ v :: rest)

include o split

theorem Ordered.number_lt_of_mem_above {a : κ} (ha : a ∈ above) : s.number v < s.number a := by
  have descends := o.descends
  rw [split] at descends
  exact (List.pairwise_append.mp descends).2.2 a ha v List.mem_cons_self

theorem Ordered.number_lt_of_mem_rest {a : κ} (ha : a ∈ rest) : s.number a < s.number v := by
  have descends := o.descends
  rw [split] at descends
  exact (List.pairwise_cons.mp (List.pairwise_append.mp descends).2.1).1 a ha

theorem Ordered.not_mem_above : v ∉ above := fun hv =>
  Nat.lt_irrefl _ (o.number_lt_of_mem_above split hv)

theorem Ordered.mem_part_iff {a : κ} :
    a ∈ (above ++ [v]).reverse ↔ a ∈ s.stack ∧ s.number v ≤ s.number a := by
  rw [List.mem_reverse, List.mem_append, List.mem_singleton, split, List.mem_append,
    List.mem_cons]
  constructor
  · rintro (ha | rfl)
    · exact ⟨Or.inl ha, (o.number_lt_of_mem_above split ha).le⟩
    · exact ⟨Or.inr (Or.inl rfl), Nat.le_refl _⟩
  · rintro ⟨ha | rfl | ha, le⟩
    · exact Or.inl ha
    · exact Or.inr rfl
    · exact absurd (o.number_lt_of_mem_rest split ha) (Nat.not_lt.mpr le)

theorem Ordered.mem_rest_iff {a : κ} : a ∈ rest ↔ a ∈ s.stack ∧ s.number a < s.number v := by
  constructor
  · intro ha
    refine ⟨?_, o.number_lt_of_mem_rest split ha⟩
    rw [split]
    exact List.mem_append_right _ (List.mem_cons_of_mem _ ha)
  · rintro ⟨ha, lt⟩
    rw [split, List.mem_append, List.mem_cons] at ha
    rcases ha with ha | rfl | ha
    · exact absurd (o.number_lt_of_mem_above split ha) (Nat.not_lt.mpr lt.le)
    · exact absurd lt (Nat.lt_irrefl _)
    · exact ha

/-- The vertices from the first one of a component upwards are a component. -/
theorem Linked.isComponent (h : s.Linked edges (v :: below) waits)
    (first : s.low v = s.number v) (done : ∀ a b, waits a b → a ∈ below) :
    IsComponent edges s.components (above ++ [v]).reverse where
  distinct := by
    have nodup := o.nodup_stack
    rw [split, ← List.singleton_append, ← List.append_assoc] at nodup
    exact List.nodup_reverse.mpr (List.nodup_append.mp nodup).1
  apart a ha := o.apart a ((o.mem_part_iff split).mp ha).1
  connected a ha b hb := by
    obtain ⟨onStackA, aboveA⟩ := (o.mem_part_iff split).mp ha
    obtain ⟨onStackB, aboveB⟩ := (o.mem_part_iff split).mp hb
    exact (h.leads_top o first onStackA aboveA).trans (h.carries_top o onStackB aboveB).leads
  closed a ha b hb edge := by
    obtain ⟨onStack, le⟩ := (o.mem_part_iff split).mp ha
    exact (h.closed_top o first done onStack le hb edge).imp_left (o.mem_part_iff split).mpr

theorem Ordered.close : (s.close v).Ordered edges below := by
  rw [close_eq split (o.not_mem_above split)]
  have mem_rest {a : κ} := o.mem_rest_iff split (a := a)
  have sublist : rest.Sublist s.stack := by
    rw [split]
    exact (List.sublist_cons_self v rest).trans (List.sublist_append_right _ _)
  refine ⟨o.listed, o.linked, fun a => ?_, fun a ha => ?_, fun a ha => ?_,
    o.descends.sublist sublist, o.leave.pathDescends, fun a ha => ?_⟩
  · change s.Entered a ↔ a ∈ rest ∨ a ∈ (s.components ++ [(above ++ [v]).reverse]).flatten
    rw [o.entered, split, flatten_snoc]
    simp only [List.mem_append, List.mem_cons, List.mem_reverse, List.not_mem_nil, or_false]
    tauto
  · change a ∉ (s.components ++ [(above ++ [v]).reverse]).flatten
    rw [flatten_snoc, List.mem_append, o.mem_part_iff split]
    obtain ⟨onStack, lt⟩ := mem_rest.mp ha
    rintro (early | ⟨-, le⟩)
    · exact o.apart a onStack early
    · exact Nat.not_lt.mpr le lt
  · exact o.numbered a (mem_rest.mp ha).1
  · exact mem_rest.mpr ⟨o.inWork a (List.mem_cons_of_mem _ ha), o.number_lt_top ha⟩

theorem Linked.close (h : s.Linked edges (v :: below) waits) :
    (s.close v).Linked edges below waits := by
  rw [close_eq split (o.not_mem_above split)]
  have mem_rest {a : κ} := o.mem_rest_iff split (a := a)
  refine ⟨h.followed.tail, h.looked, ?_, ?_, ?_, ?_, ?_⟩
  · exact fun a ha b hb => h.bounded a (mem_rest.mp ha).1 b (mem_rest.mp hb).1
  · exact fun a ha => h.low_le a (mem_rest.mp ha).1
  · intro a ha
    obtain ⟨onStack, lt⟩ := mem_rest.mp ha
    obtain ⟨b, hb, link, leads⟩ := h.reached a onStack
    refine ⟨b, mem_rest.mpr ⟨hb, ?_⟩, link, leads⟩
    rw [link]
    exact (h.low_le a onStack).trans_lt lt
  · intro a ha
    obtain ⟨onStack, lt⟩ := mem_rest.mp ha
    obtain ⟨w, hw, carries⟩ := h.carried a onStack
    have other : w ≠ v := by
      rintro rfl
      exact Nat.not_lt.mpr carries.number_le lt
    exact ⟨w, (List.mem_cons.mp hw).resolve_left other, carries.number_le, carries.low_le,
      carries.leads, fun u hu => carries.last u (List.mem_cons_of_mem _ hu)⟩
  · intro a ha outside
    obtain ⟨onStack, lt⟩ := mem_rest.mp ha
    have other : a ≠ v := by
      rintro rfl
      exact Nat.lt_irrefl _ lt
    exact h.left a onStack (List.not_mem_cons_of_ne_of_not_mem other outside)

end Close

/-! ### Steps -/

/-- The edge from `a` to `b` was not looked at, though `a` is in work. -/
def Waits (s : Search κ) (a b : κ) : Prop :=
  ∃ rest, (a, rest) ∈ s.work ∧ b ∈ rest

/-- What holds of a search after every step. -/
structure Valid (edges : Edges κ) (s : Search κ) : Prop where
  ordered : s.Ordered edges (s.work.map Prod.fst)
  linked : s.Linked edges (s.work.map Prod.fst) s.Waits
  components : Components edges s.components
  edge : ∀ a b, s.Waits a b → Leads edges a b

/-- The numbers do not depend on the edges in work. -/
theorem Ordered.rework (o : s.Ordered edges path) (work : List (κ × List κ)) :
    ({ s with work := work } : Search κ).Ordered edges path :=
  ⟨o.listed, o.linked, o.entered, o.apart, o.numbered, o.descends, o.pathDescends, o.inWork⟩

/-- Nor do the low links. -/
theorem Linked.rework (h : s.Linked edges path waits) (work : List (κ × List κ)) :
    ({ s with work := work } : Search κ).Linked edges path waits :=
  ⟨h.followed, h.looked, h.bounded, h.low_le, h.reached, fun a ha =>
    let ⟨w, hw, carries⟩ := h.carried a ha
    ⟨w, hw, carries.number_le, carries.low_le, carries.leads, carries.last⟩, h.left⟩

section Step

variable {v t : κ} {rest : List κ} {below : List (κ × List κ)}

omit [DecidableEq κ] in
theorem waits_cons_iff (work : s.work = (v, t :: rest) :: below) {a b : κ} :
    s.Waits a b ↔
      a = v ∧ b = t ∨ ({ s with work := (v, rest) :: below } : Search κ).Waits a b := by
  unfold Waits
  rw [work]
  constructor
  · rintro ⟨targets, member, waiting⟩
    rcases List.mem_cons.mp member with same | member
    · obtain ⟨rfl, rfl⟩ := Prod.mk.inj same
      exact (List.mem_cons.mp waiting).imp (fun same => ⟨rfl, same⟩) fun later =>
        ⟨rest, List.mem_cons_self, later⟩
    · exact Or.inr ⟨targets, List.mem_cons_of_mem _ member, waiting⟩
  · rintro (⟨rfl, rfl⟩ | ⟨targets, member, waiting⟩)
    · exact ⟨b :: rest, List.mem_cons_self, List.mem_cons_self⟩
    · rcases List.mem_cons.mp member with same | member
      · obtain ⟨rfl, rfl⟩ := Prod.mk.inj same
        exact ⟨t :: targets, List.mem_cons_self, List.mem_cons_of_mem _ waiting⟩
      · exact ⟨targets, List.mem_cons_of_mem _ member, waiting⟩

theorem waits_enter_iff {a b : κ} :
    (s.enter edges t).Waits a b ↔ s.Waits a b ∨ a = t ∧ Leads edges a b := by
  constructor
  · rintro ⟨targets, member, waiting⟩
    rcases List.mem_cons.mp member with same | member
    · obtain ⟨rfl, rfl⟩ := Prod.mk.inj same
      exact Or.inr ⟨rfl, waiting⟩
    · exact Or.inl ⟨targets, member, waiting⟩
  · rintro (⟨targets, member, waiting⟩ | ⟨rfl, leads⟩)
    · exact ⟨targets, List.mem_cons_of_mem _ member, waiting⟩
    · exact ⟨successors edges a, List.mem_cons_self, leads⟩

/-- What a step leads to: it finds what it looks up, and the vertices that were entered stay so. -/
def Moves (edges : Edges κ) (s : Search κ) (result : Option (Search κ)) : Prop :=
  ∃ s', result = some s' ∧ s'.Valid edges ∧ ∀ a, s.Entered a → s'.Entered a

/-- An edge is looked at. -/
theorem Valid.look (valid : s.Valid edges) (work : s.work = (v, t :: rest) :: below) :
    s.Moves edges (look edges { s with work := (v, rest) :: below } v t) := by
  let s₁ : Search κ := { s with work := (v, rest) :: below }
  have path : s.work.map Prod.fst = v :: below.map Prod.fst := by rw [work]; rfl
  have o : s₁.Ordered edges (v :: below.map Prod.fst) := path ▸ valid.ordered.rework _
  have h : s₁.Linked edges (v :: below.map Prod.fst) s.Waits := path ▸ valid.linked.rework _
  have onStack : v ∈ s₁.stack := o.inWork v List.mem_cons_self
  have later : ∀ a b, s₁.Waits a b → Leads edges a b := fun a b waiting =>
    valid.edge a b ((waits_cons_iff work).mpr (Or.inr waiting))
  have own : Leads edges v t := valid.edge v t ((waits_cons_iff work).mpr (Or.inl ⟨rfl, rfl⟩))
  change s.Moves edges (s₁.look edges v t)
  unfold Search.look
  split
  case isTrue unlisted =>
    refine ⟨s₁, rfl, ⟨o, h.look (fun a b listed waiting => ?_) o, valid.components, later⟩,
      fun _ => id⟩
    rcases (waits_cons_iff work).mp waiting with ⟨rfl, rfl⟩ | waiting
    · exact absurd listed unlisted
    · exact Or.inl waiting
  case isFalse listed =>
  split
  case isTrue unseen =>
    have new : ¬ s₁.Entered t := by simpa [OrderedMap.contains, Entered] using unseen
    have o' := o.enter new (not_not.mp listed)
    have h' := o.linked_enter new h fun parent member => by
      obtain rfl : v = parent := by simpa using member
      exact own
    refine ⟨_, rfl, ⟨o', h'.look (fun a b _ waiting => ?_) o', valid.components,
      fun a b waiting => ?_⟩, fun a entered => (entered_enter_iff s₁ t a).mpr (Or.inr entered)⟩
    · rw [waits_enter_iff]
      rcases waiting with waiting | new
      · rcases (waits_cons_iff work).mp waiting with ⟨rfl, rfl⟩ | waiting
        · have low := h'.low_le a (List.mem_cons_of_mem _ onStack)
          exact Or.inr ⟨(entered_enter_iff s₁ b b).mpr (Or.inl rfl), fun _ =>
            low.trans (o'.number_lt_top List.mem_cons_self).le⟩
        · exact Or.inl (Or.inl waiting)
      · exact Or.inl (Or.inr new)
    · exact (waits_enter_iff.mp waiting).elim (later a b) And.right
  case isFalse seen =>
  have entered : s₁.Entered t := by simpa [OrderedMap.contains, Entered] using seen
  split
  case isTrue found =>
    have h' := h.lowered List.mem_cons_self ⟨t, found, rfl, .single own⟩
    rw [o.get?_numbers found, Option.bind_some, o.lower_eq onStack]
    refine ⟨_, rfl, ⟨o.lowered, h'.look (fun a b _ waiting => ?_) o.lowered, valid.components,
      later⟩, fun _ => id⟩
    rcases (waits_cons_iff work).mp waiting with ⟨rfl, rfl⟩ | waiting
    · refine Or.inr ⟨entered, fun _ => ?_⟩
      rw [low_lowered, if_pos rfl]
      exact Nat.min_le_right _ _
    · exact Or.inl waiting
  case isFalse gone =>
    refine ⟨s₁, rfl, ⟨o, h.look (fun a b _ waiting => ?_) o, valid.components, later⟩,
      fun _ => id⟩
    rcases (waits_cons_iff work).mp waiting with ⟨rfl, rfl⟩ | waiting
    · exact Or.inr ⟨entered, fun onStack => absurd onStack gone⟩
    · exact Or.inl waiting

/-- A vertex is left: its component is closed if it is the first one, and else it is carried by the
vertex below. -/
theorem Linked.finish {path : List κ} (h : s.Linked edges (v :: path) waits)
    (o : s.Ordered edges (v :: path)) (done : ∀ a b, waits a b → a ∈ path)
    (passed : ∀ p ∈ path.head?, s.low p ≤ s.low v) (components : Components edges s.components) :
    let s' := if s.low v = s.number v then s.close v else s
    s'.Ordered edges path ∧ s'.Linked edges path waits ∧ Components edges s'.components := by
  have onStack : v ∈ s.stack := o.inWork v List.mem_cons_self
  by_cases first : s.low v = s.number v
  · rw [if_pos first]
    obtain ⟨above, rest, split⟩ := List.append_of_mem onStack
    refine ⟨o.close split, Linked.close o split h, ?_⟩
    rw [close_eq split (o.not_mem_above split)]
    exact components.snoc (Linked.isComponent o split h first done)
  · rw [if_neg first]
    refine ⟨o.leave, ?_, components⟩
    cases path with
    | nil => exact absurd (h.low_eq_number onStack) first
    | cons p below =>
      have notFirst : s.low v < s.number v := Nat.lt_of_le_of_ne (h.low_le v onStack) first
      exact h.leave o (passed p rfl) notFirst

/-- The vertex below takes over the low link of a vertex that is about to be left. -/
theorem Linked.lowerTop (h : s.Linked edges (v :: s.work.map Prod.fst) waits)
    (o : s.Ordered edges (v :: s.work.map Prod.fst)) :
    ∃ s', s.lowerTop (s.low v) = some s' ∧ (s' = s ∨ ∃ p, s' = s.lowered p (s.low v)) ∧
      s'.Ordered edges (v :: s.work.map Prod.fst) ∧
      s'.Linked edges (v :: s.work.map Prod.fst) waits ∧
      s'.low v = s.low v ∧ ∀ p ∈ (s.work.map Prod.fst).head?, s'.low p ≤ s'.low v := by
  unfold Search.lowerTop
  match work : s.work with
  | [] =>
    rw [work] at o h
    exact ⟨s, rfl, Or.inl rfl, o, h, rfl, fun p top => absurd top (Option.not_mem_none p)⟩
  | (p, targets) :: below =>
    rw [work, List.map_cons] at o h
    have inWork : p ∈ v :: p :: below.map Prod.fst := by simp
    have edge : Leads edges p v := (List.isChain_cons_cons.mp h.followed).1
    have other : v ≠ p := by
      rintro rfl
      exact Nat.lt_irrefl _ (o.number_lt_top List.mem_cons_self)
    obtain ⟨b, hb, link, leads⟩ := h.reached v (o.inWork v List.mem_cons_self)
    have same : (s.lowered p (s.low v)).low v = s.low v := by rw [low_lowered, if_neg other]
    refine ⟨s.lowered p (s.low v), o.lower_eq (o.inWork p inWork), Or.inr ⟨p, rfl⟩, o.lowered,
      h.lowered inWork ⟨b, hb, link, leads.head edge⟩, same, fun q top => ?_⟩
    obtain rfl : p = q := by simpa using top
    rw [same, low_lowered, if_pos rfl]
    exact Nat.min_le_right _ _

omit [DecidableEq κ] in
theorem waits_nil_iff (work : s.work = (v, []) :: below) {a b : κ} :
    s.Waits a b ↔ ({ s with work := below } : Search κ).Waits a b := by
  unfold Waits
  rw [work]
  constructor
  · rintro ⟨targets, member, waiting⟩
    rcases List.mem_cons.mp member with same | member
    · obtain ⟨-, rfl⟩ := Prod.mk.inj same
      exact absurd waiting List.not_mem_nil
    · exact ⟨targets, member, waiting⟩
  · rintro ⟨targets, member, waiting⟩
    exact ⟨targets, List.mem_cons_of_mem _ member, waiting⟩

/-- A vertex is left once its edges were all looked at. -/
theorem Valid.leave (valid : s.Valid edges) (work : s.work = (v, []) :: below) :
    s.Moves edges (leave { s with work := below } v) := by
  let s₁ : Search κ := { s with work := below }
  have path : s.work.map Prod.fst = v :: s₁.work.map Prod.fst := by rw [work]; rfl
  have waits : s.Waits = s₁.Waits :=
    funext fun a => funext fun b => propext (waits_nil_iff work)
  have o : s₁.Ordered edges (v :: s₁.work.map Prod.fst) := path ▸ valid.ordered.rework _
  have h : s₁.Linked edges (v :: s₁.work.map Prod.fst) s₁.Waits :=
    path ▸ waits ▸ valid.linked.rework _
  have onStack : v ∈ s₁.stack := o.inWork v List.mem_cons_self
  have done : ∀ a b, s₁.Waits a b → a ∈ s₁.work.map Prod.fst := fun a b ⟨_, member, _⟩ =>
    List.mem_map_of_mem member
  obtain ⟨s₂, lowered, frame, o₂, h₂, same, passed⟩ := h.lowerTop o
  obtain ⟨work₂, numbers₂, components₂⟩ : s₂.work = s₁.work ∧ s₂.numbers = s₁.numbers ∧
      s₂.components = s₁.components := by
    rcases frame with rfl | ⟨p, rfl⟩ <;> exact ⟨rfl, rfl, rfl⟩
  let s₃ : Search κ := if s₂.low v = s₂.number v then s₂.close v else s₂
  have left : s₁.leave v = some s₃ := by
    unfold Search.leave
    rw [o.get?_lowLinks onStack, o.get?_numbers onStack]
    simp [lowered, same, Search.number, numbers₂, s₃]
  obtain ⟨o₃, h₃, components₃⟩ := h₂.finish o₂ done passed (components₂ ▸ valid.components)
  obtain ⟨work₃, numbers₃⟩ : s₃.work = s₁.work ∧ s₃.numbers = s₁.numbers := by
    unfold s₃
    split <;> exact ⟨work₂, numbers₂⟩
  have waits₃ : s₃.Waits = s₁.Waits := by
    unfold Waits
    rw [work₃]
  refine ⟨s₃, left, ⟨work₃ ▸ o₃, waits₃ ▸ work₃ ▸ h₃, components₃, ?_⟩, fun a entered => ?_⟩
  · rw [waits₃, ← waits]
    exact valid.edge
  · unfold Entered
    rwa [numbers₃]

/-- A step finds every number and low link that it looks up. -/
theorem Valid.step (valid : s.Valid edges) (busy : s.work ≠ []) :
    s.Moves edges (s.step edges) := by
  unfold Search.step
  split
  case h_1 idle => exact absurd idle busy
  case h_2 vertex below work => exact valid.leave work
  case h_3 vertex target rest below work => exact valid.look work

end Step

/-! ### The whole search -/

/-- No search takes steps for ever. -/
theorem wellFounded_step (edges : Edges κ) :
    WellFounded fun s' s : Search κ => s.work ≠ [] ∧ s.step edges = some s' :=
  Subrelation.wf (fun {_ _} stepped => weight_step_lt stepped.1 stepped.2)
    (measure (weight edges)).wf

theorem Valid.run (valid : s.Valid edges) :
    ∃ s', s.run edges = some s' ∧ s'.work = [] ∧ s'.Valid edges ∧
      ∀ a, s.Entered a → s'.Entered a := by
  induction s using (wellFounded_step edges).induction with
  | _ s ih =>
    rw [Search.run]
    split
    case isTrue idle => exact ⟨s, rfl, idle, valid, fun _ => id⟩
    case isFalse busy =>
      obtain ⟨next, stepped, valid', kept⟩ := valid.step busy
      obtain ⟨last, ran, idle, valid'', kept'⟩ := ih next ⟨busy, stepped⟩ valid'
      refine ⟨last, ?_, idle, valid'', fun a entered => kept' a (kept a entered)⟩
      split
      case h_1 missing => exact absurd (stepped.symm.trans missing) (Option.some_ne_none _)
      case h_2 found same => rwa [← Option.some.inj (stepped.symm.trans same)]

/-- Once nothing is in work, what was entered is in a component. -/
theorem Valid.entered_iff (valid : s.Valid edges) (idle : s.work = []) {v : κ} :
    s.Entered v ↔ v ∈ s.components.flatten := by
  rw [valid.ordered.entered, or_iff_right]
  intro onStack
  obtain ⟨w, hw, -⟩ := valid.linked.carried v onStack
  rw [idle] at hw
  exact absurd hw List.not_mem_nil

theorem Valid.enter {t : κ} (valid : s.Valid edges) (idle : s.work = []) (new : ¬ s.Entered t)
    (listed : t ∈ vertices edges) : (s.enter edges t).Valid edges where
  ordered := valid.ordered.enter new listed
  linked := by
    have waits : (s.enter edges t).Waits = fun a b => s.Waits a b ∨ a = t ∧ Leads edges a b :=
      funext fun a => funext fun b => propext waits_enter_iff
    rw [waits]
    exact valid.ordered.linked_enter new valid.linked (by simp [idle])
  components := valid.components
  edge a b waiting := (waits_enter_iff.mp waiting).elim (valid.edge a b) And.right

/-- A visit leaves no vertex in work, and it enters the vertex it is for. -/
theorem Valid.visit {t : κ} (valid : s.Valid edges) (idle : s.work = [])
    (listed : t ∈ vertices edges) :
    ∃ s', s.visit edges t = some s' ∧ s'.work = [] ∧ s'.Valid edges ∧ s'.Entered t ∧
      ∀ a, s.Entered a → s'.Entered a := by
  unfold Search.visit
  split
  case isTrue seen =>
    have entered : s.Entered t := by simpa [OrderedMap.contains, Entered] using seen
    exact ⟨s, rfl, idle, valid, entered, fun _ => id⟩
  case isFalse unseen =>
    have new : ¬ s.Entered t := by simpa [OrderedMap.contains, Entered] using unseen
    obtain ⟨s', ran, idle', valid', kept⟩ := (valid.enter idle new listed).run
    exact ⟨s', ran, idle', valid', kept t ((entered_enter_iff s t t).mpr (Or.inl rfl)),
      fun a entered => kept a ((entered_enter_iff s t a).mpr (Or.inr entered))⟩

theorem Valid.foldlM_visit {roots : List κ} (valid : s.Valid edges) (idle : s.work = [])
    (listed : ∀ root ∈ roots, root ∈ vertices edges) :
    ∃ s', roots.foldlM (Search.visit edges) s = some s' ∧ s'.work = [] ∧ s'.Valid edges ∧
      (∀ root ∈ roots, s'.Entered root) ∧ ∀ a, s.Entered a → s'.Entered a := by
  induction roots generalizing s with
  | nil => exact ⟨s, rfl, idle, valid, by simp, fun _ => id⟩
  | cons root rest ih =>
    obtain ⟨s₁, visited, idle₁, valid₁, entered, kept⟩ :=
      valid.visit idle (listed root List.mem_cons_self)
    obtain ⟨s₂, folded, idle₂, valid₂, found, kept₂⟩ :=
      ih valid₁ idle₁ fun later member => listed later (List.mem_cons_of_mem _ member)
    refine ⟨s₂, ?_, idle₂, valid₂, List.forall_mem_cons.mpr ⟨kept₂ root entered, found⟩,
      fun a old => kept₂ a (kept a old)⟩
    rw [List.foldlM_cons, visited]
    exact folded

theorem valid_empty (edges : Edges κ) : ({} : Search κ).Valid edges := by
  have nothing (v : κ) : ¬ ({} : Search κ).Entered v := List.not_mem_nil
  refine ⟨⟨?_, ?_, ?_, ?_, ?_, .nil, .nil, ?_⟩, ⟨.nil, ?_, ?_, ?_, ?_, ?_, ?_⟩, .nil, ?_⟩
  all_goals simp [nothing, Waits]

end Search

/-- The search succeeds on every graph, and it finds each vertex in one component. -/
theorem exists_components? [DecidableEq κ] (edges : Edges κ) :
    ∃ components, components? edges = some components ∧ Components edges components ∧
      ∀ v, v ∈ vertices edges ↔ v ∈ components.flatten := by
  obtain ⟨s, folded, idle, valid, found, -⟩ :=
    (Search.valid_empty edges).foldlM_visit rfl fun root (listed : root ∈ vertices edges) => listed
  refine ⟨s.components, ?_, valid.components, fun v => ?_⟩
  · rw [components?, folded, Option.map_some]
  · rw [← valid.entered_iff idle]
    exact ⟨found v, valid.ordered.listed v⟩

end Schemata.Walk
