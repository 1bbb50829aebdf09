import Schemata.Proofs.Shape.Canonical

/-!
# Shapes with legible details

A shape holds names and numbers unquoted.  Shapes with the same canonical text are the same if the
names among these details are identifiers and different numbers are written differently.  A literal
is written without the sign of a zero.

## Main definitions

* `Detail`, `Shape.details` : the names and numbers that a shape holds unquoted.
* `Legible` : what is assumed of the details that occur.
* `Shape.unsigned` : a shape without the sign of a zero.
* `Shape.outline` : a shape without its numbers.

## Main results

* `Shape.unsigned_eq_of_canonical_eq` : shapes with the same canonical text are the same.
* `Shape.outline_eq_of_canonical_eq` : they are the same up to numbers without an assumption on
  numbers.
-/

namespace Schemata

/-! ### Details -/

/-- A part of a type that is written without quotes. -/
inductive Detail
  /-- The name of a type parameter or of the parameter of a function. -/
  | name (text : String)
  /-- A number that is the value of a literal. -/
  | number (value : Double)
  /-- A bound of a constraint. -/
  | bound (value : Double)
deriving DecidableEq

/-- The details of a literal. -/
def Literal.details : Literal → List Detail
  | .number value => [.number value]
  | _ => []

/-- The details of a constraint. -/
def Constraint.details (c : Constraint) : List Detail :=
  (c.min.toList ++ c.max.toList).map .bound

/-- The details of a shape. -/
def Shape.details : Shape → List Detail
  | .literal value => value.details
  | .generic params _ => params.map .name
  | .function _ params _ => params.map fun param => .name param.name
  | .refined _ constraint => constraint.details
  | _ => []

/-- The characters of identifiers; letters of other scripts count. -/
def isIdentifierChar (c : Char) : Bool :=
  c.isAlphanum || c = '_' || c = '$' || 128 ≤ c.toNat

/-- A name that is an identifier. -/
def IsIdentifier (name : String) : Prop :=
  name ≠ "" ∧ ∀ c ∈ name.toList, isIdentifierChar c

instance (name : String) : Decidable (IsIdentifier name) :=
  decidable_of_iff (name ≠ "" ∧ name.toList.all isIdentifierChar)
    (and_congr_right fun _ => List.all_eq_true)

/-- What is assumed of the details that occur: names are identifiers, and different numbers are
written differently, where both zeros count as one number. -/
structure Legible (occurs : Detail → Prop) : Prop where
  names : ∀ name, occurs (.name name) → IsIdentifier name
  numbers : ∀ a b, occurs (.number a) → occurs (.number b) → a.toSource = b.toSource →
    a.unsigned = b.unsigned
  bounds : ∀ a b, occurs (.bound a) → occurs (.bound b) →
    a.toCanonicalText = b.toCanonicalText → a.unsigned = b.unsigned

/-- What is assumed of one detail beside another. -/
def Detail.Clear : Detail → Detail → Prop
  | .name text, _ => IsIdentifier text
  | .number a, .number b => a.toSource = b.toSource → a.unsigned = b.unsigned
  | .bound a, .bound b => a.toCanonicalText = b.toCanonicalText → a.unsigned = b.unsigned
  | _, _ => True

instance : (a b : Detail) → Decidable (a.Clear b)
  | .name text, _ => inferInstanceAs (Decidable (IsIdentifier text))
  | .number a, .number b =>
    inferInstanceAs (Decidable (a.toSource = b.toSource → a.unsigned = b.unsigned))
  | .bound a, .bound b =>
    inferInstanceAs (Decidable (a.toCanonicalText = b.toCanonicalText → a.unsigned = b.unsigned))
  | .number _, .name _ | .number _, .bound _ | .bound _, .name _ | .bound _, .number _ =>
    inferInstanceAs (Decidable True)

theorem legible_mem_iff (details : List Detail) :
    Legible (· ∈ details) ↔ ∀ a ∈ details, ∀ b ∈ details, a.Clear b := by
  constructor
  · rintro legible (name | a | a) ha (name' | b | b) hb
    all_goals first
      | exact legible.names _ ha
      | exact legible.numbers _ _ ha hb
      | exact legible.bounds _ _ ha hb
      | trivial
  · exact fun clear => ⟨fun _ ha => clear _ ha _ ha, fun _ _ ha hb => clear _ ha _ hb,
      fun _ _ ha hb => clear _ ha _ hb⟩

instance (details : List Detail) : Decidable (Legible (· ∈ details)) :=
  decidable_of_iff' _ (legible_mem_iff details)

/-- A literal without the sign of a zero. -/
def Literal.unsigned : Literal → Literal
  | .number value => .number value.unsigned
  | literal => literal

/-- A shape without the sign of a zero that is its literal value. -/
def Shape.unsigned : Shape → Shape
  | .literal value => .literal value.unsigned
  | shape => shape

/-! ### Identifiers are plain -/

theorem IsIdentifier.not_mem {name : String} (identifier : IsIdentifier name) {c : Char}
    (other : isIdentifierChar c = false) : c ∉ name.toList := by
  intro member
  exact Bool.false_ne_true (other.symm.trans (identifier.2 c member))

theorem Param.plain_of_isIdentifier {p : Param} (identifier : IsIdentifier p.name) : p.Plain where
  unmarked marked := identifier.not_mem rfl (List.mem_of_getLast? marked)
  untyped before id after split := by
    refine identifier.not_mem (show isIdentifierChar ':' = false from rfl) ?_
    simp [split]

theorem Shape.plain_of_isIdentifier {s : Shape}
    (names : ∀ name, .name name ∈ s.details → IsIdentifier name) : s.Plain := by
  cases s with
  | generic params body =>
    have identifiers : ∀ name ∈ params, IsIdentifier name :=
      fun name member => names name (List.mem_map_of_mem member)
    refine ⟨?_, fun name member => (identifiers name member).not_mem rfl⟩
    rintro rfl
    exact (identifiers "" List.mem_cons_self).1 rfl
  | function kind params returns =>
    exact fun p member =>
      Param.plain_of_isIdentifier (names p.name (List.mem_map.mpr ⟨p, member, rfl⟩))
  | _ => trivial

/-! ### Shapes that are alike -/

section Legible

variable {occurs : Detail → Prop} (legible : Legible occurs)

include legible

theorem Literal.Alike.unsigned_eq {a b : Literal} (ha : ∀ detail ∈ a.details, occurs detail)
    (hb : ∀ detail ∈ b.details, occurs detail) (alike : a.Alike b) : a.unsigned = b.unsigned := by
  unfold Alike at alike
  split at alike
  · exact congrArg number (legible.numbers _ _ (ha _ List.mem_cons_self)
      (hb _ List.mem_cons_self) alike)
  · rw [alike]

/-- Bounds that are written alike are the same. -/
theorem bound_eq_of_map_eq {a b : Option Double} (ha : ∀ value ∈ a, occurs (.bound value))
    (hb : ∀ value ∈ b, occurs (.bound value))
    (same : a.map Double.toCanonicalText = b.map Double.toCanonicalText) : a = b := by
  cases a with
  | none =>
    cases b with
    | none => rfl
    | some y => cases same
  | some x =>
    cases b with
    | none => cases same
    | some y =>
      have texts := Option.some.inj same
      exact congrArg some
        (Double.eq_of_unsigned_eq (legible.bounds x y (ha x rfl) (hb y rfl) texts) texts)

theorem Constraint.Alike.eq {a b : Constraint} (ha : ∀ detail ∈ a.details, occurs detail)
    (hb : ∀ detail ∈ b.details, occurs detail) (alike : a.Alike b) : a = b := by
  have occurring {c : Constraint} (hc : ∀ detail ∈ c.details, occurs detail) :
      (∀ value ∈ c.min, occurs (.bound value)) ∧ ∀ value ∈ c.max, occurs (.bound value) := by
    simp only [details, List.map_append, List.mem_append, List.mem_map, Option.mem_toList] at hc
    exact ⟨fun value member => hc _ (Or.inl ⟨value, member, rfl⟩),
      fun value member => hc _ (Or.inr ⟨value, member, rfl⟩)⟩
  exact Constraint.ext
    (bound_eq_of_map_eq legible (occurring ha).1 (occurring hb).1 alike.min)
    (bound_eq_of_map_eq legible (occurring ha).2 (occurring hb).2 alike.max) alike.pattern

theorem Shape.Alike.unsigned_eq {s t : Shape} (hs : ∀ detail ∈ s.details, occurs detail)
    (ht : ∀ detail ∈ t.details, occurs detail) (alike : s.Alike t) : s.unsigned = t.unsigned := by
  unfold Alike at alike
  split at alike
  · exact congrArg literal (Literal.Alike.unsigned_eq legible hs ht alike)
  · rw [alike.1, Constraint.Alike.eq legible hs ht alike.2]
  · rw [alike]

/-- Shapes with the same canonical text are the same, up to the sign of a zero. -/
theorem Shape.unsigned_eq_of_canonical_eq {s t : Shape} (hs : ∀ detail ∈ s.details, occurs detail)
    (ht : ∀ detail ∈ t.details, occurs detail) (same : s.canonical = t.canonical) :
    s.unsigned = t.unsigned := by
  have plain {u : Shape} (hu : ∀ detail ∈ u.details, occurs detail) : u.Plain :=
    plain_of_isIdentifier fun name member => legible.names name (hu _ member)
  exact Alike.unsigned_eq legible hs ht (alike_of_canonical_eq (plain hs) (plain ht) same)

end Legible

namespace Shape

/-- A shape without the value of a literal and without the constraint of a refined type, the parts
in which numbers are written. -/
def outline : Shape → Shape
  | .literal _ => .literal .null
  | .refined base _ => .refined base ⟨none, none, none⟩
  | shape => shape

theorem Alike.outline_eq {s t : Shape} (alike : s.Alike t) : s.outline = t.outline := by
  unfold Alike at alike
  split at alike
  · rfl
  · rw [outline, outline, alike.1]
  · rw [alike]

/-- The canonical text tells the outline of a shape if its names are identifiers, however numbers
are written. -/
theorem outline_eq_of_canonical_eq {s t : Shape}
    (hs : ∀ name, .name name ∈ s.details → IsIdentifier name)
    (ht : ∀ name, .name name ∈ t.details → IsIdentifier name) (same : s.canonical = t.canonical) :
    s.outline = t.outline :=
  (alike_of_canonical_eq (plain_of_isIdentifier hs) (plain_of_isIdentifier ht) same).outline_eq

end Shape

end Schemata
