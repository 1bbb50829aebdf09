import Schemata.Proofs.Binary.Codec
import Schemata.Proofs.Shape.Canonical
import Schemata.Proofs.Shape.Graph

/-!
# What fingerprints tell apart

A fingerprint is a digest of entries, one for each id that is found: the id, the canonical text of
its shape, the words for its declaration, and a zero octet.  No canonical text ends with such words.
So if no text holds a NUL, the entries can be read off, and the octets behind two fingerprints are
the same if and only if the graphs are alike wherever the id leads to.

## Main definitions

* `Mark`, `ShapeGraph.mark` : what a fingerprint says of an id.
* `ShapeGraph.LikeBelow` : two graphs are alike wherever an id leads to.
* `ShapeGraph.PrintedBelow` : what is assumed of the shapes that an id leads to.

## Main results

* `Shape.unlabelled_canonical` : a canonical text does not end with the words for a declaration.
* `Mark.readable_octets` : entries of fingerprints can be read off.
* `ShapeGraph.digested_eq_iff` : the octets behind two fingerprints are the same if and only if the
  graphs are alike.
-/

namespace Schemata

/-! ### Marks -/

/-- What a fingerprint says of an id: the canonical text of its shape, and how it is declared. -/
@[ext]
structure Mark where
  id : ShapeId
  text : Option String
  declared : Option (DeclarationKind × Bool)

namespace Mark

/-- How an id is declared, in words. -/
def label : Option (DeclarationKind × Bool) → String
  | some (kind, exported) => s!"{kind.canonicalName}:{exported}"
  | none => ""

/-- The octets of a mark. -/
def octets (mark : Mark) : List UInt8 :=
  Bytes.ofNat 8 mark.id.value.toNat
    ++ (Bytes.ofString (mark.text.getD "missing" ++ label mark.declared) ++ [0])

/-- The text is that of a shape and holds no NUL. -/
def Printed (mark : Mark) : Prop :=
  ∀ text ∈ mark.text, (∃ shape : Shape, shape.canonical = text) ∧ '\x00' ∉ text.toList

theorem toList_label (kind : DeclarationKind) (exported : Bool) :
    (label (some (kind, exported))).toList
      = kind.canonicalName.toList ++ ':' :: if exported then "true".toList else "false".toList := by
  cases exported <;> simp [label, toString]

theorem label_ends (kind : DeclarationKind) (exported : Bool) :
    ∃ front c, (label (some (kind, exported))).toList = front ++ [c, 'e'] ∧ c ∈ ['u', 's'] := by
  cases exported with
  | false =>
    exact ⟨kind.canonicalName.toList ++ ":fal".toList, 's', by simp [toList_label], by decide⟩
  | true =>
    exact ⟨kind.canonicalName.toList ++ ":tr".toList, 'u', by simp [toList_label], by decide⟩

/-- The text does not end with the words for a declared id. -/
def Unlabelled (text : List Char) : Prop :=
  ∀ front kind exported, text ≠ front ++ (label (some (kind, exported))).toList

/-- A text without a colon is not labelled. -/
theorem unlabelled_of_not_mem {text : List Char} (free : ':' ∉ text) : Unlabelled text := by
  rintro front kind exported rfl
  simp [toList_label] at free

theorem unlabelled_of_getLast? {text : List Char} (ends : text.getLast? ≠ some 'e') :
    Unlabelled text := by
  rintro front kind exported rfl
  obtain ⟨before, c, label, -⟩ := label_ends kind exported
  simp [label] at ends

/-- A text is not labelled if neither of the letters before the end of a label is in its tail. -/
theorem unlabelled_of_tail {front tail : List Char} (long : 2 ≤ tail.length)
    (free : ∀ c ∈ ['u', 's'], c ∉ tail) : Unlabelled (front ++ tail) := by
  intro front' kind exported same
  obtain ⟨before, c, label, letter⟩ := label_ends kind exported
  have suffix : [c, 'e'] <:+ tail := by
    have ends : [c, 'e'] <:+ front ++ tail :=
      ⟨front' ++ before, by rw [same, label, List.append_assoc]⟩
    exact List.suffix_of_suffix_length_le ends (List.suffix_append front tail) long
  exact free c letter (suffix.subset List.mem_cons_self)

/-- A text and the words after it can be told apart. -/
theorem label_append_inj {text text' : List Char} (h : Unlabelled text) (h' : Unlabelled text')
    {declared declared' : Option (DeclarationKind × Bool)}
    (same : text ++ (label declared).toList = text' ++ (label declared').toList) :
    text = text' ∧ declared = declared' := by
  rcases declared with - | ⟨kind, exported⟩ <;> rcases declared' with - | ⟨kind', exported'⟩
  · exact ⟨by simpa [label] using same, rfl⟩
  · exact absurd (by simpa [label] using same) (h text' kind' exported')
  · exact absurd (by simpa [label] using same.symm) (h' text kind exported)
  · obtain ⟨rfl, rfl⟩ : kind = kind' ∧ exported = exported' := by
      have reversed := congrArg List.reverse same
      cases kind <;> cases kind' <;> cases exported <;> cases exported' <;>
        simp [toList_label, DeclarationKind.canonicalName] at reversed ⊢
    exact ⟨List.append_cancel_right same, rfl⟩

end Mark

/-! ### Canonical texts in marks -/

namespace Shape

theorem unlabelled_canonical (shape : Shape) : Mark.Unlabelled shape.canonical.toList := by
  rw [toList_canonical]
  cases shape with
  | primitive type =>
    refine Mark.unlabelled_of_not_mem ?_
    cases type <;> decide
  | function kind params returns =>
    have letters : ∀ c ∈ ['u', 's'], c ∉ returns.toHex.toList := by
      simpa using And.intro (returns.not_mem_toHex fun _ => Nat.digitChar_ne 'u' rfl)
        (returns.not_mem_toHex fun _ => Nat.digitChar_ne 's' rfl)
    have split : (function kind params returns).word.toList ++ (function kind params returns).body
        = ("fn:".toList ++ kind.canonicalName.toList ++ '(' :: (params.flatMap
          fun p => p.canonical.toList) ++ ")=>".toList) ++ returns.toHex.toList := by
      simp [word, body]
    rw [split]
    exact Mark.unlabelled_of_tail (by rw [ShapeId.length_toHex]; decide) letters
  | _ =>
    -- A bracket or a brace closes the text.
    refine Mark.unlabelled_of_getLast? ?_
    simp [body, List.getLast?_cons, List.getLast?_append]

/-- A missing shape is not taken for one. -/
theorem canonical_ne_missing (shape : Shape) : shape.canonical ≠ "missing" := by
  intro same
  have words : shape.word = "missing" := by
    rw [← String.toList_inj, toList_canonical] at same
    have split : shape.word.toList ++ shape.body = "missing".toList ++ [] := by
      rw [same, List.append_nil]
    exact (word_inj shape.all_isAlpha_word (by decide) shape.head_body rfl split).1
  cases shape with
  | primitive type => cases type <;> exact absurd words (by decide)
  | _ => exact absurd words (by simp [word])

theorem map_children_eq_of_rel {s t : Option Shape} (rel : Option.Rel Alike s t) :
    s.map children = t.map children := by
  cases rel with
  | some alike => exact congrArg some alike.children_eq
  | none => rfl

theorem map_canonical_eq_iff {s t : Option Shape} (hs : ∀ shape ∈ s, shape.Plain)
    (ht : ∀ shape ∈ t, shape.Plain) :
    s.map canonical = t.map canonical ↔ Option.Rel Alike s t := by
  constructor
  · intro same
    cases s with
    | none =>
      cases t with
      | none => exact .none
      | some t => cases same
    | some s =>
      cases t with
      | none => cases same
      | some t => exact .some ((canonical_eq_iff (hs s rfl) (ht t rfl)).mp (Option.some.inj same))
  · rintro (alike | -)
    · exact congrArg some alike.canonical_eq
    · rfl

end Shape

namespace Mark

theorem unlabelled_text {mark : Mark} (printed : mark.Printed) :
    Unlabelled (mark.text.getD "missing").toList := by
  cases text : mark.text with
  | none => exact unlabelled_of_not_mem (by decide)
  | some canonical =>
    obtain ⟨⟨shape, rfl⟩, -⟩ := printed canonical text
    exact shape.unlabelled_canonical

theorem text_eq_of_getD_eq {mark mark' : Mark} (printed : mark.Printed) (printed' : mark'.Printed)
    (same : mark.text.getD "missing" = mark'.text.getD "missing") : mark.text = mark'.text := by
  cases text : mark.text with
  | none =>
    cases text' : mark'.text with
    | none => rfl
    | some canonical' =>
      obtain ⟨⟨shape, rfl⟩, -⟩ := printed' canonical' text'
      rw [text, text'] at same
      exact absurd same.symm shape.canonical_ne_missing
  | some canonical =>
    cases text' : mark'.text with
    | none =>
      obtain ⟨⟨shape, rfl⟩, -⟩ := printed canonical text
      rw [text, text'] at same
      exact absurd same shape.canonical_ne_missing
    | some canonical' =>
      rw [text, text'] at same
      exact congrArg some same

theorem zero_not_mem_ofString {mark : Mark} (printed : mark.Printed) :
    0 ∉ Bytes.ofString (mark.text.getD "missing" ++ label mark.declared) := by
  refine Bytes.zero_not_mem_ofString ?_
  rw [String.toList_append, List.mem_append, not_or]
  constructor
  · cases text : mark.text with
    | none => decide
    | some canonical => exact (printed canonical text).2
  · rcases mark.declared with - | ⟨kind, exported⟩
    · decide
    · cases kind <;> cases exported <;> decide

/-- The octets of marks can be read off. -/
theorem readable_octets : Readable Printed octets := by
  intro mark mark' printed printed' rest rest' same
  simp only [octets, List.append_assoc] at same
  obtain ⟨ids, same⟩ := List.append_inj same (by rw [Bytes.length_ofNat, Bytes.length_ofNat])
  have nonzero {mark : Mark} (printed : mark.Printed) :
      ∀ octet ∈ Bytes.ofString (mark.text.getD "missing" ++ label mark.declared),
        decide (octet ≠ 0) := by
    intro octet member
    exact decide_eq_true fun zero => zero_not_mem_ofString printed (zero ▸ member)
  obtain ⟨texts, rests⟩ := run_append_inj (nonzero printed) (nonzero printed') (by simp) (by simp)
    same
  have texts := congrArg String.toList (Bytes.ofString_inj texts)
  rw [String.toList_append, String.toList_append] at texts
  obtain ⟨text, declared⟩ := label_append_inj (unlabelled_text printed) (unlabelled_text printed')
    texts
  have id := Bytes.ofNat_inj mark.id.value.toNat_lt mark'.id.value.toNat_lt ids
  refine ⟨Mark.ext (congrArg ShapeId.mk (UInt64.toNat_inj.mp id)) ?_ declared, ?_⟩
  · exact text_eq_of_getD_eq printed printed' (String.toList_inj.mp text)
  · exact (List.cons.inj rests).2

theorem octets_ne_nil (mark : Mark) : mark.octets ≠ [] := by
  simp [octets]

end Mark

/-! ### Fingerprints -/

/-- How a declaration enters a fingerprint. -/
def Declaration.status (declaration : Declaration) : DeclarationKind × Bool :=
  (declaration.kind, declaration.exported)

namespace ShapeGraph

/-- The octets of which the fingerprint of an id is a digest. -/
def digested (g : ShapeGraph) (id : ShapeId) : List UInt8 :=
  (g.reachable [id]).flatMap g.fingerprintEntry

/-- The graphs are alike wherever `id` leads to in `g`: they have shapes that are alike, and the
same declarations but for names and files, which the ids tell. -/
def LikeBelow (g h : ShapeGraph) (id : ShapeId) : Prop :=
  ∀ found ∈ g.reachable [id],
    Option.Rel Shape.Alike (g.shape? found) (h.shape? found) ∧
      (g.declaration? found).map Declaration.status = (h.declaration? found).map Declaration.status

/-- All shapes that `id` leads to are plain, and their texts hold no NUL. -/
def PrintedBelow (g : ShapeGraph) (id : ShapeId) : Prop :=
  ∀ found ∈ g.reachable [id], ∀ shape ∈ g.shape? found,
    shape.Plain ∧ '\x00' ∉ shape.canonical.toList

/-- What a fingerprint says of an id that is found. -/
def mark (g : ShapeGraph) (found : ShapeId) : Mark :=
  ⟨found, (g.shape? found).map Shape.canonical, (g.declaration? found).map Declaration.status⟩

variable {g h : ShapeGraph} {id : ShapeId}

theorem fingerprintEntry_eq (g : ShapeGraph) (found : ShapeId) :
    g.fingerprintEntry found = (g.mark found).octets := by
  unfold fingerprintEntry mark Mark.octets
  cases g.shape? found <;> cases g.declaration? found <;>
    simp [Mark.label, Declaration.status, Bytes.ofString_eq]

theorem digested_eq (g : ShapeGraph) (id : ShapeId) :
    g.digested id = ((g.reachable [id]).map g.mark).flatMap Mark.octets := by
  unfold digested
  rw [List.flatMap_map]
  exact List.flatMap_congr fun found _ => g.fingerprintEntry_eq found

theorem fingerprint_eq_of_digested_eq (same : g.digested id = h.digested id) :
    g.fingerprint id = h.fingerprint id := by
  unfold fingerprint
  exact congrArg (fun octets => ShapeId.truncate (Blake3.digest octets)) same

theorem PrintedBelow.printed (printed : g.PrintedBelow id) :
    ∀ mark ∈ (g.reachable [id]).map g.mark, mark.Printed := by
  intro _ listed
  obtain ⟨found, member, rfl⟩ := List.mem_map.mp listed
  intro text has
  obtain ⟨shape, shapes, rfl⟩ := Option.map_eq_some_iff.mp has
  exact ⟨⟨shape, rfl⟩, (printed found member shape shapes).2⟩

theorem mark_eq_iff {found : ShapeId} (hg : ∀ shape ∈ g.shape? found, shape.Plain)
    (hh : ∀ shape ∈ h.shape? found, shape.Plain) :
    g.mark found = h.mark found ↔ Option.Rel Shape.Alike (g.shape? found) (h.shape? found) ∧
      (g.declaration? found).map Declaration.status
        = (h.declaration? found).map Declaration.status := by
  simp only [mark, Mark.mk.injEq, true_and, Shape.map_canonical_eq_iff hg hh]

theorem map_mark_eq_iff {ids ids' : List ShapeId} :
    ids.map g.mark = ids'.map h.mark ↔ ids = ids' ∧ ∀ found ∈ ids, g.mark found = h.mark found := by
  constructor
  · intro same
    have ids_eq : ids = ids' := by
      simpa [Function.comp_def, mark] using congrArg (List.map Mark.id) same
    subst ids_eq
    exact ⟨rfl, List.map_inj_left.mp same⟩
  · rintro ⟨rfl, same⟩
    exact List.map_congr_left same

/-- Graphs that are alike below an id find the same there. -/
theorem LikeBelow.reachable_eq (like : g.LikeBelow h id) : g.reachable [id] = h.reachable [id] := by
  refine Walk.preorder_congr (· ∈ g.reachable [id]) (fun a ha => ?_) (fun a ha b step => ?_)
    fun a ha => g.mem_reachable_of_mem ha
  · rw [successors_edges, successors_edges, childrenOf, childrenOf,
      Shape.map_children_eq_of_rel (like a ha).1]
  · exact g.mem_reachable_of_child ha (g.leads_edges_iff.mp step)

/-- The octets behind two fingerprints of an id are the same if and only if the graphs are alike
below it. -/
theorem digested_eq_iff (hg : g.PrintedBelow id) (hh : h.PrintedBelow id) :
    g.digested id = h.digested id ↔ g.LikeBelow h id := by
  have plain {found : ShapeId} (member : found ∈ g.reachable [id])
      (member' : found ∈ h.reachable [id]) :=
    mark_eq_iff (fun shape has => (hg found member shape has).1)
      fun shape has => (hh found member' shape has).1
  rw [digested_eq, digested_eq]
  constructor
  · intro same
    obtain ⟨ids, marks⟩ := map_mark_eq_iff.mp
      (Mark.readable_octets.flatMap_inj Mark.octets_ne_nil hg.printed hh.printed same)
    exact fun found member => (plain member (ids ▸ member)).mp (marks found member)
  · intro like
    rw [map_mark_eq_iff.mpr ⟨like.reachable_eq, fun found member =>
      (plain member (like.reachable_eq ▸ member)).mpr (like found member)⟩]

end ShapeGraph

end Schemata
