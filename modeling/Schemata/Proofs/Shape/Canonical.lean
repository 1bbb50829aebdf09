import Mathlib.Data.List.Infix
import Schemata.Proofs.Number.Text
import Schemata.Proofs.Text.Readable
import Schemata.Shape.Canonical

/-!
# Canonical texts tell shapes apart

The canonical text of a shape is a word, which tells its kind, and a body, which tells its parts.
Ids and quoted texts in the body can be read off.  The names of type parameters and of the
parameters of functions are not quoted: a comma, a question mark or a type inside of such a name
cannot be told from one that the text itself puts there.  Shapes without such names are plain, and
plain shapes with the same text are the same, up to numbers that are written alike.

## Main definitions

* `Shape.Alike` : shapes that differ in nothing but numbers that are written alike.
* `Shape.Plain` : shapes whose unquoted names can be read off.

## Main results

* `Shape.toList_canonical` : a canonical text is a word and a body.
* `Shape.canonical_eq_iff` : plain shapes have the same canonical text if and only if they are
  alike.
* `Shape.exists_twin` : a shape that is not plain shares its text with one that is not alike.
-/

namespace Schemata

/-! ### Shapes that are alike -/

/-- Literals that differ in nothing but the number behind a text. -/
def Literal.Alike : Literal → Literal → Prop
  | .number a, .number b => a.toSource = b.toSource
  | a, b => a = b

/-- Constraints that differ in nothing but the numbers behind the texts of bounds. -/
structure Constraint.Alike (a b : Constraint) : Prop where
  min : a.min.map Double.toCanonicalText = b.min.map Double.toCanonicalText
  max : a.max.map Double.toCanonicalText = b.max.map Double.toCanonicalText
  pattern : a.pattern = b.pattern

/-- Shapes that differ in nothing but numbers that are written alike. -/
def Shape.Alike : Shape → Shape → Prop
  | .literal a, .literal b => a.Alike b
  | .refined base a, .refined base' b => base = base' ∧ a.Alike b
  | s, t => s = t

@[refl]
theorem Shape.Alike.refl (s : Shape) : s.Alike s := by
  cases s with
  | literal value => cases value <;> rfl
  | refined base constraint => exact ⟨rfl, rfl, rfl, rfl⟩
  | _ => rfl

theorem Shape.Alike.children_eq {s t : Shape} (alike : s.Alike t) : s.children = t.children := by
  unfold Alike at alike
  split at alike
  · rfl
  · rw [children, children, alike.1]
  · rw [alike]

/-! ### Plain shapes -/

/-- No type stands in the text in the way that parameters have one: after a colon and before a
semicolon. -/
def Untyped (text : List Char) : Prop :=
  ∀ before (id : ShapeId) after, text ≠ before ++ ':' :: (id.toHex.toList ++ ';' :: after)

/-- The name of a parameter that can be read off before its mark and its type. -/
structure Param.Plain (p : Param) : Prop where
  unmarked : p.name.toList.getLast? ≠ some '?'
  untyped : Untyped p.name.toList

/-- The unquoted names of the shape can be read off. -/
def Shape.Plain : Shape → Prop
  | .generic params _ => params ≠ [""] ∧ ∀ name ∈ params, ',' ∉ name.toList
  | .function _ params _ => ∀ p ∈ params, p.Plain
  | _ => True

/-- Does the text begin with a type in the way that parameters have one? -/
def opensType : List Char → Bool
  | ':' :: rest => ((ShapeId.ofHex (rest.take 16)).toHex.toList ++ [';']).isPrefixOf rest
  | _ => false

theorem opensType_iff {text : List Char} :
    opensType text ↔ ∃ (id : ShapeId) (after : List Char),
      text = ':' :: (id.toHex.toList ++ ';' :: after) := by
  constructor
  · intro opens
    unfold opensType at opens
    split at opens
    · rename_i rest
      obtain ⟨after, split⟩ := List.isPrefixOf_iff_prefix.mp opens
      exact ⟨ShapeId.ofHex (rest.take 16), after, congrArg _ (split.symm.trans (by simp))⟩
    · cases opens
  · rintro ⟨id, after, rfl⟩
    have digits : (id.toHex.toList ++ ';' :: after).take 16 = id.toHex.toList :=
      List.take_left' id.length_toHex
    rw [opensType, digits, ShapeId.ofHex_toHex, List.isPrefixOf_iff_prefix]
    exact ⟨after, by simp⟩

theorem untyped_iff {text : List Char} :
    Untyped text ↔ ∀ tail ∈ text.tails, opensType tail = false := by
  constructor
  · intro untyped tail member
    obtain ⟨before, split⟩ := (List.mem_tails tail text).mp member
    refine Bool.eq_false_iff.mpr fun opens => ?_
    obtain ⟨id, after, rfl⟩ := opensType_iff.mp opens
    exact untyped before id after split.symm
  · intro none before id after split
    have opens := opensType_iff.mpr ⟨id, after, rfl⟩
    rw [none _ ((List.mem_tails _ text).mpr ⟨before, split.symm⟩)] at opens
    cases opens

instance (text : List Char) : Decidable (Untyped text) :=
  decidable_of_iff' _ untyped_iff

instance (p : Param) : Decidable p.Plain :=
  decidable_of_iff (p.name.toList.getLast? ≠ some '?' ∧ Untyped p.name.toList)
    ⟨fun h => ⟨h.1, h.2⟩, fun h => ⟨h.1, h.2⟩⟩

instance : (s : Shape) → Decidable s.Plain
  | .generic params _ =>
    inferInstanceAs (Decidable (params ≠ [""] ∧ ∀ name ∈ params, ',' ∉ name.toList))
  | .function _ params _ => inferInstanceAs (Decidable (∀ p ∈ params, p.Plain))
  | .primitive _ | .literal _ | .array _ | .tuple _ | .object _ | .union _ | .intersection _
  | .param _ | .mapped _ _ | .reference _ _ | .refined _ _ | .unresolved _ | .unsupported _ =>
    inferInstanceAs (Decidable True)

/-! ### Parts of bodies -/

attribute [ext] Field Param Constraint

-- What is inside quotes is read by the lemmas about quotes alone.
seal Visible.quote Quoted.quote Double.toCanonicalText Double.toSource

private theorem toString_text (text : String) : toString text = text :=
  rfl

/-- Lists of texts that a comma parts. -/
theorem intercalate_inj {texts texts' : List (List Char)} (some : texts ≠ [[]])
    (some' : texts' ≠ [[]]) (free : ∀ text ∈ texts, ',' ∉ text)
    (free' : ∀ text ∈ texts', ',' ∉ text)
    (same : [','].intercalate texts = [','].intercalate texts') : texts = texts' := by
  have nonempty {texts : List (List Char)} (some : texts ≠ [[]]) (any : texts ≠ []) :
      [','].intercalate texts ≠ [] := by
    cases texts with
    | nil => exact absurd rfl any
    | cons first rest => cases rest <;> simp_all [List.intercalate]
  have split {texts : List (List Char)} (free : ∀ text ∈ texts, ',' ∉ text) (any : texts ≠ []) :
      ([','].intercalate texts).splitOn ',' = texts :=
    List.splitOn_intercalate ',' free any
  by_cases none : texts = [] <;> by_cases none' : texts' = []
  · rw [none, none']
  · exact absurd (by rw [← same, none]; rfl) (nonempty some' none')
  · exact absurd (by rw [same, none']; rfl) (nonempty some none)
  · rw [← split free none, same, split free' none']

theorem joinIds_inj {ids ids' : List ShapeId}
    (same : (joinIds ids).toList = (joinIds ids').toList) : ids = ids' := by
  have free (ids : List ShapeId) : ∀ text ∈ (ids.map ShapeId.toHex).map String.toList,
      ',' ∉ text ∧ text ≠ [] := by
    simp only [List.map_map, List.mem_map, Function.comp]
    rintro _ ⟨id, -, rfl⟩
    refine ⟨id.not_mem_toHex fun _ => Nat.digitChar_ne ',' rfl, fun none => ?_⟩
    simpa [none] using id.length_toHex
  have some (ids : List ShapeId) : (ids.map ShapeId.toHex).map String.toList ≠ [[]] := by
    intro none
    exact (free ids [] (none ▸ List.mem_singleton_self _)).2 rfl
  unfold joinIds at same
  rw [String.toList_intercalate, String.toList_intercalate] at same
  have texts := intercalate_inj (some ids) (some ids') (fun _ member => (free ids _ member).1)
    (fun _ member => (free ids' _ member).1) same
  simp only [List.map_map] at texts
  exact List.map_injective_iff.mpr (fun _ _ => ShapeId.toHex_inj) texts

/-- Names without commas can be told apart in a list. -/
theorem names_inj {names names' : List String} (some : names ≠ [""]) (some' : names' ≠ [""])
    (free : ∀ name ∈ names, ',' ∉ name.toList) (free' : ∀ name ∈ names', ',' ∉ name.toList)
    (same : (String.intercalate "," names).toList = (String.intercalate "," names').toList) :
    names = names' := by
  have toList_inj : Function.Injective (List.map String.toList) :=
    List.map_injective_iff.mpr fun _ _ => String.toList_inj.mp
  rw [String.toList_intercalate, String.toList_intercalate] at same
  refine toList_inj (intercalate_inj (fun none => some (toList_inj none))
    (fun none => some' (toList_inj none)) ?_ ?_ same)
  · simpa using free
  · simpa using free'

/-- A flag that is written as a question mark before a colon. -/
theorem mark_inj {flag flag' : Bool} {rest rest' : List Char}
    (same : (if flag then ['?'] else []) ++ ':' :: rest
      = (if flag' then ['?'] else []) ++ ':' :: rest') : flag = flag' ∧ rest = rest' := by
  cases flag <;> cases flag' <;> simp_all

/-- An id and a semicolon after it. -/
theorem hex_semicolon_inj {id id' : ShapeId} {rest rest' : List Char}
    (same : id.toHex.toList ++ ';' :: rest = id'.toHex.toList ++ ';' :: rest') :
    id = id' ∧ rest = rest' := by
  obtain ⟨ids, rests⟩ := ShapeId.readable_toHex id id' trivial trivial _ _ same
  exact ⟨ids, (List.cons.inj rests).2⟩

theorem toList_canonical_field (f : Field) (rest : List Char) :
    f.canonical.toList ++ rest = (if f.readonly then "readonly ".toList else [])
      ++ ((Quoted.quote f.name).toList ++ ((if f.optional then ['?'] else [])
        ++ ':' :: (f.type.toHex.toList ++ ';' :: rest))) := by
  cases hr : f.readonly <;> cases ho : f.optional <;>
    simp [Field.canonical, hr, ho, toString_text]

/-- A word before a quoted name. -/
theorem readonly_quote_inj {flag flag' : Bool} {name name' : String} {rest rest' : List Char}
    (same : (if flag then "readonly ".toList else []) ++ ((Quoted.quote name).toList ++ rest)
      = (if flag' then "readonly ".toList else []) ++ ((Quoted.quote name').toList ++ rest')) :
    flag = flag' ∧ name = name' ∧ rest = rest' := by
  obtain rfl : flag = flag' := by
    cases flag <;> cases flag' <;> simp_all [Quoted.quote, Quoted.quoteChars]
  exact ⟨rfl, Quoted.readable_quote name name' trivial trivial _ _ (List.append_cancel_left same)⟩

/-- The text of a field can be read off. -/
theorem readable_field : Readable (fun _ => True) fun f : Field => f.canonical.toList := by
  intro f f' _ _ rest rest' same
  rw [toList_canonical_field, toList_canonical_field] at same
  obtain ⟨readonly, name, same⟩ := readonly_quote_inj same
  obtain ⟨optional, same⟩ := mark_inj same
  obtain ⟨type, rests⟩ := hex_semicolon_inj same
  exact ⟨Field.ext name type optional readonly, rests⟩

theorem field_opens (f : Field) (rest rest' : List Char) :
    f.canonical.toList ++ rest ≠ '}' :: rest' := by
  rw [toList_canonical_field]
  cases f.readonly <;> simp [Quoted.quote, Quoted.quoteChars]

theorem toList_canonical_param (p : Param) (rest : List Char) :
    p.canonical.toList ++ rest = p.name.toList ++ ((if p.optional then ['?'] else [])
      ++ ':' :: (p.type.toHex.toList ++ ';' :: rest)) := by
  cases ho : p.optional <;> simp [Param.canonical, ho, toString_text]

theorem param_shows (p : Param) : p.canonical.toList ≠ [] := by
  intro none
  have := toList_canonical_param p []
  rw [none] at this
  simp at this

/-- A type ends the first text in which it stands. -/
theorem eq_nil_of_untyped {text more rest tail : List Char} {id : ShapeId}
    (untyped : Untyped (text ++ more))
    (same : ':' :: (id.toHex.toList ++ ';' :: rest) = more ++ ':' :: tail) : more = [] := by
  cases more with
  | nil => rfl
  | cons c more =>
    obtain ⟨rfl, tails⟩ := List.cons.inj same
    rcases List.append_eq_append_iff.mp tails with ⟨excess, rfl, later⟩ | ⟨excess, digits, later⟩
    · cases excess with
      | nil => exact absurd (List.cons.inj later).1 (by decide)
      | cons d excess =>
        obtain ⟨rfl, -⟩ := List.cons.inj later
        exact absurd rfl (untyped text id excess)
    · have colon : ':' ∈ id.toHex.toList := by
        cases excess with
        | nil => exact absurd (List.cons.inj later).1 (by decide)
        | cons d excess =>
          obtain ⟨rfl, -⟩ := List.cons.inj later
          simp [digits]
      exact absurd colon (id.not_mem_toHex fun _ => Nat.digitChar_ne ':' rfl)

theorem typed_inj {text text' rest rest' : List Char} {id id' : ShapeId} (untyped : Untyped text)
    (untyped' : Untyped text') (same : text ++ ':' :: (id.toHex.toList ++ ';' :: rest)
      = text' ++ ':' :: (id'.toHex.toList ++ ';' :: rest')) :
    text = text' ∧ id = id' ∧ rest = rest' := by
  obtain rfl : text = text' := by
    rcases List.append_eq_append_iff.mp same with ⟨more, rfl, later⟩ | ⟨more, rfl, later⟩
    · rw [eq_nil_of_untyped untyped' later, List.append_nil]
    · rw [eq_nil_of_untyped untyped later, List.append_nil]
  exact ⟨rfl, hex_semicolon_inj (List.cons.inj (List.append_cancel_left same)).2⟩

/-- A question mark after a text makes no type. -/
theorem Untyped.mark {text : List Char} (untyped : Untyped text) (flag : Bool) :
    Untyped (text ++ if flag then ['?'] else []) := by
  intro before id after same
  cases flag with
  | false => exact untyped before id after (by simpa using same)
  | true =>
    rcases List.eq_nil_or_concat after with rfl | ⟨after, last, rfl⟩
    · have ends : text ++ ['?'] = (before ++ ':' :: id.toHex.toList) ++ [';'] := by
        simpa using same
      exact absurd (List.append_inj_right' ends rfl) (by decide)
    · have ends : text ++ ['?']
          = (before ++ ':' :: (id.toHex.toList ++ ';' :: after)) ++ [last] := by
        simpa using same
      exact untyped before id after (List.append_inj_left' ends rfl)

theorem marked_inj {text text' : List Char} {flag flag' : Bool}
    (unmarked : text.getLast? ≠ some '?') (unmarked' : text'.getLast? ≠ some '?')
    (same : (text ++ if flag then ['?'] else []) = text' ++ if flag' then ['?'] else []) :
    text = text' ∧ flag = flag' := by
  cases flag <;> cases flag' <;> simp at same
  · exact ⟨same, rfl⟩
  · exact absurd (by simp [same]) unmarked
  · exact absurd (by simp [← same]) unmarked'
  · exact ⟨same, rfl⟩

/-- The text of a parameter can be read off if its name is plain. -/
theorem readable_param : Readable Param.Plain fun p : Param => p.canonical.toList := by
  intro p p' hp hp' rest rest' same
  rw [toList_canonical_param, toList_canonical_param, ← List.append_assoc, ← List.append_assoc]
    at same
  obtain ⟨names, type, rests⟩ := typed_inj (hp.untyped.mark _) (hp'.untyped.mark _) same
  obtain ⟨name, optional⟩ := marked_inj hp.unmarked hp'.unmarked names
  exact ⟨Param.ext (String.toList_inj.mp name) type optional, rests⟩

theorem intercalate_cons (sep first : List Char) (others : List (List Char)) :
    sep.intercalate (first :: others) = first ++ others.flatMap (sep ++ ·) := by
  induction others generalizing first with
  | nil => simp [List.intercalate]
  | cons second others ih =>
    rw [List.intercalate_cons_cons, ih, List.flatMap_cons, List.append_assoc, List.append_assoc]

theorem toList_canonicalTexts_cons (first : String) (others : List String) (rest : List Char) :
    (canonicalTexts (first :: others)).toList ++ rest = '[' :: ((Visible.quote first).toList
      ++ (others.flatMap (fun text => ',' :: ' ' :: (Visible.quote text).toList) ++ [']']
        ++ rest)) := by
  simp [canonicalTexts, intercalate_cons, List.flatMap_map]

/-- A list of visibly quoted texts can be read off. -/
theorem readable_canonicalTexts :
    Readable (fun _ => True) fun texts : List String => (canonicalTexts texts).toList := by
  have later : Readable (fun _ => True) fun text : String =>
      ',' :: ' ' :: (Visible.quote text).toList := by
    intro a b _ _ rest rest' same
    exact Visible.readable_quote a b trivial trivial rest rest' (by simpa using same)
  have opens : ∀ text : String, True → ∀ rest rest',
      (',' :: ' ' :: (Visible.quote text).toList) ++ rest ≠ ']' :: rest' := by
    simp
  have closes (text : String) (rest rest' : List Char) :
      (Visible.quote text).toList ++ rest ≠ ']' :: rest' := by
    simp [Visible.quote]
  intro texts texts' _ _ rest rest' same
  cases texts with
  | nil =>
    cases texts' with
    | nil => exact ⟨rfl, List.append_cancel_left same⟩
    | cons first others =>
      rw [toList_canonicalTexts_cons] at same
      exact absurd (List.cons.inj same).2.symm (closes first _ rest)
  | cons first others =>
    rw [toList_canonicalTexts_cons] at same
    cases texts' with
    | nil => exact absurd (List.cons.inj same).2 (closes first _ rest')
    | cons first' others' =>
      rw [toList_canonicalTexts_cons] at same
      obtain ⟨rfl, tails⟩ := Visible.readable_quote first first' trivial trivial _ _
        (List.cons.inj same).2
      obtain ⟨rfl, rests⟩ := later.flatMap opens others others' (fun _ _ => trivial)
        (fun _ _ => trivial) rest rest' tails
      exact ⟨rfl, rests⟩

/-! ### Literals and constraints -/

namespace Literal

theorem quote_mem_toSource (text : String) : '"' ∈ (string text).toSource.toList := by
  show '"' ∈ (Quoted.quote text).toList
  simp [Quoted.quote, Quoted.quoteChars]

theorem toSource_string_ne {text word : String} (absent : '"' ∉ word.toList) :
    (string text).toSource ≠ word := by
  rintro rfl
  exact absent (quote_mem_toSource text)

/-- Only numbers are written as numbers: a quote or some letter of a word is in no number text. -/
theorem toSource_number_ne {literal : Literal} (other : ∀ value, literal ≠ number value)
    (value : Double) : (number value).toSource ≠ literal.toSource := by
  intro same
  obtain ⟨c, member, foreign⟩ :
      ∃ c ∈ literal.toSource.toList, Double.isTextChar c = false := by
    cases literal with
    | string text => exact ⟨'"', quote_mem_toSource text, rfl⟩
    | number value => exact absurd rfl (other value)
    | boolean value =>
      cases value with
      | false => exact ⟨'l', by decide, rfl⟩
      | true => exact ⟨'t', by decide, rfl⟩
    | null => exact ⟨'u', by decide, rfl⟩
  rw [← same] at member
  exact Bool.false_ne_true (foreign.symm.trans (Double.isTextChar_toSource value c member))

/-- Literals have the same text if and only if they are alike. -/
theorem toSource_eq_iff {a b : Literal} : a.toSource = b.toSource ↔ a.Alike b := by
  constructor
  · intro same
    cases a with
    | string text =>
      cases b with
      | string text' =>
        have quotes : Quoted.quote text = Quoted.quote text' := same
        exact congrArg string
          (Quoted.readable_quote.inj trivial trivial (congrArg String.toList quotes))
      | number value' => exact absurd same.symm (toSource_number_ne (by simp) value')
      | boolean value' => cases value' <;> exact absurd same (toSource_string_ne (by decide))
      | null => exact absurd same (toSource_string_ne (by decide))
    | number value =>
      cases b with
      | number value' => exact same
      | _ => exact absurd same (toSource_number_ne (by simp) value)
    | boolean value =>
      cases b with
      | string text' => cases value <;> exact absurd same.symm (toSource_string_ne (by decide))
      | number value' => exact absurd same.symm (toSource_number_ne (by simp) value')
      | boolean value' =>
        cases value <;> cases value' <;> first | rfl | exact absurd same (by decide)
      | null => cases value <;> exact absurd same (by decide)
    | null =>
      cases b with
      | string text' => exact absurd same.symm (toSource_string_ne (by decide))
      | number value' => exact absurd same.symm (toSource_number_ne (by simp) value')
      | boolean value' => cases value' <;> exact absurd same (by decide)
      | null => rfl
  · intro alike
    unfold Alike at alike
    split at alike
    · exact alike
    · rw [alike]

end Literal

/-- An optional value can be read off if a value before a bracket can. -/
theorem readable_canonicalOption {α : Type} {good : α → Prop} {show_ : α → String}
    (readable : Readable good fun value => (show_ value).toList ++ [')']) :
    Readable (fun option => ∀ value ∈ option, good value) fun option : Option α =>
      (canonicalOption show_ option).toList := by
  intro a b ha hb rest rest' same
  cases a with
  | none =>
    cases b with
    | none => exact ⟨rfl, List.append_cancel_left same⟩
    | some value' => simp [canonicalOption, toString_text] at same
  | some value =>
    cases b with
    | none => simp [canonicalOption, toString_text] at same
    | some value' =>
      obtain ⟨rfl, rests⟩ := readable value value' (ha value rfl) (hb value' rfl) rest rest'
        (by simpa [canonicalOption, toString_text] using same)
      exact ⟨rfl, rests⟩

namespace Constraint

theorem toList_canonical (c : Constraint) :
    c.canonical.toList = "Constraint \x7b min: ".toList
      ++ ((canonicalOption Double.toCanonicalText c.min).toList ++ (", max: ".toList
        ++ ((canonicalOption Double.toCanonicalText c.max).toList ++ (", pattern: ".toList
          ++ ((canonicalOption Visible.quote c.pattern).toList ++ " \x7d".toList))))) := by
  unfold canonical
  dsimp only
  simp only [toString_text, String.toList_append, List.append_assoc]

theorem canonicalOption_map (show_ : Double → String) (option : Option Double) :
    canonicalOption show_ option = canonicalOption id (option.map show_) := by
  cases option <;> rfl

/-- The texts of numbers can be read off before a bracket. -/
theorem readable_bound : Readable (fun text : String => ∀ c ∈ text.toList, Double.isTextChar c)
    fun text => (id text).toList ++ [')'] := by
  intro x y hx hy rest rest' same
  rw [List.append_assoc, List.append_assoc] at same
  obtain ⟨texts, rests⟩ := run_append_inj hx hy (by simp; decide) (by simp; decide) same
  exact ⟨String.toList_inj.mp texts, (List.cons.inj rests).2⟩

theorem readable_pattern :
    Readable (fun _ => True) fun text : String => (Visible.quote text).toList ++ [')'] := by
  intro x y _ _ rest rest' same
  rw [List.append_assoc, List.append_assoc] at same
  obtain ⟨texts, rests⟩ := Visible.readable_quote x y trivial trivial _ _ same
  exact ⟨texts, (List.cons.inj rests).2⟩

/-- Constraints have the same text if and only if they are alike. -/
theorem canonical_eq_iff {a b : Constraint} : a.canonical = b.canonical ↔ a.Alike b := by
  constructor
  · intro same
    have digits (bound : Option Double) : ∀ text ∈ bound.map Double.toCanonicalText,
        ∀ c ∈ text.toList, Double.isTextChar c := by
      simp only [Option.mem_def, Option.map_eq_some_iff]
      rintro _ ⟨value, -, rfl⟩
      exact value.isTextChar_toCanonicalText
    have same := congrArg String.toList same
    simp only [toList_canonical, canonicalOption_map] at same
    obtain ⟨min, same⟩ := readable_canonicalOption readable_bound _ _ (digits a.min)
      (digits b.min) _ _ (List.append_cancel_left same)
    obtain ⟨max, same⟩ := readable_canonicalOption readable_bound _ _ (digits a.max)
      (digits b.max) _ _ (List.append_cancel_left same)
    obtain ⟨pattern, -⟩ := readable_canonicalOption readable_pattern a.pattern b.pattern
      (fun _ _ => trivial) (fun _ _ => trivial) _ _ (List.append_cancel_left same)
    exact ⟨min, max, pattern⟩
  · intro alike
    rw [← String.toList_inj, toList_canonical, toList_canonical]
    simp only [canonicalOption_map Double.toCanonicalText, alike.min, alike.max, alike.pattern]

end Constraint

/-! ### Transforms -/

/-- A word and what follows it can be told apart if the word has letters only. -/
theorem word_inj {word word' : String} {body body' : List Char}
    (letters : word.toList.all Char.isAlpha) (letters' : word'.toList.all Char.isAlpha)
    (ends : body.head?.all (!Char.isAlpha ·)) (ends' : body'.head?.all (!Char.isAlpha ·))
    (same : word.toList ++ body = word'.toList ++ body') : word = word' ∧ body = body' := by
  have stops {body : List Char} (ends : body.head?.all (!Char.isAlpha ·)) :
      ∀ c ∈ body.head?, Char.isAlpha c = false := by
    intro c head
    rw [Option.mem_def.mp head, Option.all_some] at ends
    simpa using ends
  obtain ⟨words, bodies⟩ := run_append_inj (List.all_eq_true.mp letters)
    (List.all_eq_true.mp letters') (stops ends) (stops ends') same
  exact ⟨String.toList_inj.mp words, bodies⟩

/-- An id inside a transform can be read off. -/
theorem readable_canonicalId :
    Readable (fun _ => True) fun id : ShapeId => id.canonical.toList := by
  intro a b _ _ rest rest' same
  simp only [ShapeId.canonical, toString_text, String.toList_append, List.append_assoc] at same
  obtain ⟨ids, rests⟩ := ShapeId.readable_toHex a b trivial trivial _ _
    (List.append_cancel_left same)
  exact ⟨ids, List.append_cancel_left rests⟩

seal ShapeId.canonical canonicalTexts

namespace PerKey

/-- The word that the text of a per-key transform's value begins with. -/
def word : PerKey → String
  | .optional => "Optional"
  | .nullable => "Nullable"
  | .array => "Array"
  | .readonly => "Readonly"
  | .replace _ => "Replace"

/-- What follows the word. -/
def body : PerKey → List Char
  | .replace type => '(' :: (type.canonical.toList ++ [')'])
  | _ => []

theorem toList_canonical (value : PerKey) :
    value.canonical.toList = value.word.toList ++ value.body := by
  cases value <;> unfold canonical <;> simp [toString_text, word, body]

theorem all_isAlpha_word (value : PerKey) : value.word.toList.all Char.isAlpha := by
  cases value <;> simp only [word] <;> decide

theorem head_body (value : PerKey) : value.body.head?.all (!Char.isAlpha ·) := by
  cases value <;> rfl

theorem eq_of_canonical_eq {a b : PerKey} (same : a.canonical = b.canonical) : a = b := by
  rw [← String.toList_inj, toList_canonical, toList_canonical] at same
  obtain ⟨words, bodies⟩ := word_inj a.all_isAlpha_word b.all_isAlpha_word a.head_body b.head_body
    same
  cases a <;> cases b <;> simp only [word] at words <;> first
    | rfl
    | exact absurd words (by decide)
    | skip
  have ids := List.append_cancel_right (List.cons.inj bodies).2
  rw [readable_canonicalId.inj trivial trivial ids]

end PerKey

seal PerKey.canonical

namespace Transform

/-- The word that the text of a transform begins with. -/
def word : Transform → String
  | .toPartial => "Partial"
  | .toRequired => "Required"
  | .pick _ => "Pick"
  | .omit _ => "Omit"
  | .record _ => "Record"
  | .toReadonly => "Readonly"
  | .perKey _ _ => "PerKey"

/-- What follows the word. -/
def body : Transform → List Char
  | .pick keys | .omit keys => '(' :: ((canonicalTexts keys).toList ++ [')'])
  | .record value => " \x7b value: ".toList ++ (value.canonical.toList ++ " \x7d".toList)
  | .perKey name value => " \x7b name: ".toList ++ ((Visible.quote name).toList
    ++ (", value: ".toList ++ (value.canonical.toList ++ " \x7d".toList)))
  | _ => []

theorem toList_canonical (transform : Transform) :
    transform.canonical.toList = transform.word.toList ++ transform.body := by
  cases transform <;> unfold canonical word body <;>
    simp only [toString_text, String.toList_append, List.append_assoc] <;> simp

theorem all_isAlpha_word (transform : Transform) : transform.word.toList.all Char.isAlpha := by
  cases transform <;> simp only [word] <;> decide

theorem head_body (transform : Transform) : transform.body.head?.all (!Char.isAlpha ·) := by
  cases transform <;> unfold body <;> simp

theorem eq_of_canonical_eq {a b : Transform} (same : a.canonical = b.canonical) : a = b := by
  rw [← String.toList_inj, toList_canonical, toList_canonical] at same
  obtain ⟨words, bodies⟩ := word_inj a.all_isAlpha_word b.all_isAlpha_word a.head_body b.head_body
    same
  cases a <;> cases b <;> simp only [word] at words <;> first
    | rfl
    | exact absurd words (by decide)
    | skip
  case pick.pick =>
    have texts := List.append_cancel_right (List.cons.inj bodies).2
    rw [readable_canonicalTexts.inj trivial trivial texts]
  case omit.omit =>
    have texts := List.append_cancel_right (List.cons.inj bodies).2
    rw [readable_canonicalTexts.inj trivial trivial texts]
  case record.record =>
    have ids := List.append_cancel_right (List.append_cancel_left bodies)
    rw [readable_canonicalId.inj trivial trivial ids]
  case perKey.perKey name value name' value' =>
    obtain ⟨names, values⟩ := Visible.readable_quote name name' trivial trivial _ _
      (List.append_cancel_left bodies)
    have texts := List.append_cancel_right (List.append_cancel_left values)
    rw [names, PerKey.eq_of_canonical_eq (String.toList_inj.mp texts)]

end Transform

/-! ### Shapes -/

theorem Primitive.name_inj {a b : Primitive} (same : a.name = b.name) : a = b := by
  cases a <;> cases b <;> first | rfl | exact absurd same (by decide)

theorem FunctionKind.canonicalName_inj {a b : FunctionKind}
    (same : a.canonicalName = b.canonicalName) : a = b := by
  cases a <;> cases b <;> first | rfl | exact absurd same (by decide)

seal Transform.canonical Constraint.canonical Field.canonical Param.canonical Literal.toSource
  joinIds ShapeId.toHex

namespace Shape

/-- The word that the text of a shape begins with. -/
def word : Shape → String
  | .primitive type => type.name
  | .literal _ => "lit"
  | .array _ => "array"
  | .tuple _ => "tuple"
  | .object _ => "object"
  | .union _ => "union"
  | .intersection _ => "intersection"
  | .generic _ _ => "generic"
  | .param _ => "param"
  | .mapped _ _ => "mapped"
  | .reference _ _ => "ref"
  | .function _ _ _ => "fn"
  | .refined _ _ => "refined"
  | .unresolved _ => "unresolved"
  | .unsupported _ => "unsupported"

/-- What follows the word. -/
def body : Shape → List Char
  | .primitive _ => []
  | .literal value => '(' :: (value.toSource.toList ++ [')'])
  | .array element => '(' :: (element.toHex.toList ++ [')'])
  | .tuple ids | .union ids | .intersection ids => '(' :: ((joinIds ids).toList ++ [')'])
  | .object fields => '{' :: (fields.flatMap (fun f => f.canonical.toList) ++ ['}'])
  | .generic params type => '<' :: ((String.intercalate "," params).toList
    ++ ('>' :: '(' :: (type.toHex.toList ++ [')'])))
  | .param text | .unresolved text | .unsupported text => '(' :: (text.toList ++ [')'])
  | .mapped source transform => '(' :: (source.toHex.toList
    ++ (',' :: (transform.canonical.toList ++ [')'])))
  | .reference target args => '(' :: (target.toHex.toList
    ++ ('<' :: ((joinIds args).toList ++ ['>', ')'])))
  | .function kind params returns => ':' :: (kind.canonicalName.toList
    ++ ('(' :: (params.flatMap (fun p => p.canonical.toList) ++ [')']
      ++ ('=' :: '>' :: returns.toHex.toList))))
  | .refined base constraint => '(' :: (base.toHex.toList
    ++ (',' :: (constraint.canonical.toList ++ [')'])))

/-- A canonical text is a word and a body. -/
theorem toList_canonical (shape : Shape) :
    shape.canonical.toList = shape.word.toList ++ shape.body := by
  cases shape <;> unfold canonical word body <;>
    simp only [toString_text, String.toList_append, List.append_assoc, String.toList_join,
      List.flatMap_map] <;> simp

theorem all_isAlpha_word (shape : Shape) : shape.word.toList.all Char.isAlpha := by
  cases shape with
  | primitive type => cases type <;> decide
  | _ => simp only [word]; decide

theorem head_body (shape : Shape) : shape.body.head?.all (!Char.isAlpha ·) := by
  cases shape <;> rfl

/-- The words of shapes other than built-in types. -/
def keywords : List String :=
  ["lit", "array", "tuple", "object", "union", "intersection", "generic", "param", "mapped", "ref",
    "fn", "refined", "unresolved", "unsupported"]

theorem name_ne_of_mem_keywords (type : Primitive) : ∀ word ∈ keywords, type.name ≠ word := by
  cases type <;> decide

theorem generic_inj {params params' : List String} {type type' : ShapeId}
    (hs : (generic params type).Plain) (ht : (generic params' type').Plain)
    (bodies : (generic params type).body = (generic params' type').body) :
    generic params type = generic params' type' := by
  obtain ⟨names, rest⟩ := List.append_inj' (List.cons.inj bodies).2
    (by simp [ShapeId.length_toHex])
  have digits := List.append_cancel_right (List.cons.inj (List.cons.inj rest).2).2
  rw [names_inj hs.1 ht.1 hs.2 ht.2 names, ShapeId.toHex_inj digits]

theorem function_inj {kind kind' : FunctionKind} {params params' : List Param}
    {returns returns' : ShapeId} (hs : (function kind params returns).Plain)
    (ht : (function kind' params' returns').Plain)
    (bodies : (function kind params returns).body = (function kind' params' returns').body) :
    function kind params returns = function kind' params' returns' := by
  have letters (kind : FunctionKind) : kind.canonicalName.toList.all Char.isAlpha := by
    cases kind <;> decide
  obtain ⟨kinds, rest⟩ := word_inj (letters kind) (letters kind') rfl rfl (List.cons.inj bodies).2
  obtain ⟨lists, rest⟩ := List.append_inj' (List.cons.inj rest).2 (by simp [ShapeId.length_toHex])
  have lists := readable_param.flatMap_inj param_shows hs ht (List.append_cancel_right lists)
  have digits := (List.cons.inj (List.cons.inj rest).2).2
  rw [FunctionKind.canonicalName_inj kinds, lists, ShapeId.toHex_inj digits]

/-- Plain shapes with the same canonical text are alike. -/
theorem alike_of_canonical_eq {s t : Shape} (hs : s.Plain) (ht : t.Plain)
    (same : s.canonical = t.canonical) : s.Alike t := by
  rw [← String.toList_inj, toList_canonical, toList_canonical] at same
  obtain ⟨words, bodies⟩ := word_inj s.all_isAlpha_word t.all_isAlpha_word s.head_body t.head_body
    same
  cases s <;> cases t <;> simp only [word] at words <;> first
    | exact absurd words (by decide)
    | exact absurd words (name_ne_of_mem_keywords _ _ (by decide))
    | exact absurd words.symm (name_ne_of_mem_keywords _ _ (by decide))
    | skip
  case primitive.primitive => rw [Primitive.name_inj words]
  case literal.literal =>
    have texts := List.append_cancel_right (List.cons.inj bodies).2
    exact Literal.toSource_eq_iff.mp (String.toList_inj.mp texts)
  case array.array =>
    rw [ShapeId.toHex_inj (List.append_cancel_right (List.cons.inj bodies).2)]
  case tuple.tuple =>
    rw [joinIds_inj (List.append_cancel_right (List.cons.inj bodies).2)]
  case object.object fields fields' =>
    obtain ⟨rfl, -⟩ := readable_field.flatMap (fun f _ => field_opens f) fields fields'
      (fun _ _ => trivial) (fun _ _ => trivial) [] []
      (congrArg (· ++ []) (List.cons.inj bodies).2)
    rfl
  case union.union =>
    rw [joinIds_inj (List.append_cancel_right (List.cons.inj bodies).2)]
  case intersection.intersection =>
    rw [joinIds_inj (List.append_cancel_right (List.cons.inj bodies).2)]
  case generic.generic =>
    rw [generic_inj hs ht bodies]
  case param.param =>
    rw [String.toList_inj.mp (List.append_cancel_right (List.cons.inj bodies).2)]
  case mapped.mapped source transform source' transform' =>
    obtain ⟨sources, rest⟩ := ShapeId.readable_toHex source source' trivial trivial _ _
      (List.cons.inj bodies).2
    have texts := List.append_cancel_right (List.cons.inj rest).2
    rw [sources, Transform.eq_of_canonical_eq (String.toList_inj.mp texts)]
  case reference.reference target args target' args' =>
    obtain ⟨targets, rest⟩ := ShapeId.readable_toHex target target' trivial trivial _ _
      (List.cons.inj bodies).2
    have texts := List.append_cancel_right (List.cons.inj rest).2
    rw [targets, joinIds_inj texts]
  case function.function =>
    rw [function_inj hs ht bodies]
  case refined.refined base constraint base' constraint' =>
    obtain ⟨bases, rest⟩ := ShapeId.readable_toHex base base' trivial trivial _ _
      (List.cons.inj bodies).2
    have texts := List.append_cancel_right (List.cons.inj rest).2
    exact ⟨bases, Constraint.canonical_eq_iff.mp (String.toList_inj.mp texts)⟩
  case unresolved.unresolved =>
    rw [String.toList_inj.mp (List.append_cancel_right (List.cons.inj bodies).2)]
  case unsupported.unsupported =>
    rw [String.toList_inj.mp (List.append_cancel_right (List.cons.inj bodies).2)]

theorem Alike.canonical_eq {s t : Shape} (alike : s.Alike t) : s.canonical = t.canonical := by
  unfold Alike at alike
  split at alike
  · rw [canonical, canonical, Literal.toSource_eq_iff.mpr alike]
  · rw [canonical, canonical, alike.1, Constraint.canonical_eq_iff.mpr alike.2]
  · rw [alike]

/-- Plain shapes have the same canonical text if and only if they are alike. -/
theorem canonical_eq_iff {s t : Shape} (hs : s.Plain) (ht : t.Plain) :
    s.canonical = t.canonical ↔ s.Alike t :=
  ⟨alike_of_canonical_eq hs ht, Alike.canonical_eq⟩

/-! ### Shapes that are not plain -/

/-- A comma in a text parts it like a comma between texts. -/
theorem intercalate_comma (before after : List (List Char)) (first second : List Char) :
    [','].intercalate (before ++ (first ++ ',' :: second) :: after)
      = [','].intercalate (before ++ first :: second :: after) := by
  cases before with
  | nil => simp [intercalate_cons]
  | cons head before => simp [intercalate_cons]

theorem exists_twin_generic {params : List String} {body : ShapeId}
    (h : ¬ (generic params body).Plain) :
    ∃ params', (generic params' body).canonical = (generic params body).canonical ∧
      params' ≠ params := by
  have texts {params params' : List String} (same : (String.intercalate "," params').toList
      = (String.intercalate "," params).toList) :
      (generic params' body).canonical = (generic params body).canonical := by
    rw [canonical, canonical, String.toList_inj.mp same]
  by_cases none : params = [""]
  · exact ⟨[], texts (by rw [none]; decide), by simp [none]⟩
  · obtain ⟨name, member, comma⟩ : ∃ name ∈ params, ',' ∈ name.toList := by
      by_contra free
      exact h ⟨none, fun name member comma => free ⟨name, member, comma⟩⟩
    obtain ⟨before, after, rfl⟩ := List.append_of_mem member
    obtain ⟨first, second, split⟩ := List.append_of_mem comma
    refine ⟨before ++ .ofList first :: .ofList second :: after, texts ?_, fun same => ?_⟩
    · simp only [String.toList_intercalate, List.map_append, List.map_cons, String.toList_ofList,
        split]
      exact (intercalate_comma _ _ first second).symm
    · simpa using congrArg List.length same

/-- A parameter whose name is not plain is written like other parameters. -/
theorem exists_twin_param {p : Param} (h : ¬ p.Plain) :
    ∃ list : List Param, list.flatMap (fun p => p.canonical.toList) = p.canonical.toList ∧
      list ≠ [p] := by
  have text (p : Param) : p.canonical.toList = p.name.toList
      ++ ((if p.optional then ['?'] else []) ++ ':' :: (p.type.toHex.toList ++ [';'])) := by
    rw [← toList_canonical_param, List.append_nil]
  obtain ⟨name, type, optional⟩ := p
  by_cases marked : name.toList.getLast? = some '?'
  · cases optional with
    | false =>
      -- The question mark of the name is taken for the mark.
      obtain ⟨front, split⟩ := List.getLast?_eq_some_iff.mp marked
      refine ⟨[⟨.ofList front, type, true⟩], ?_, by simp⟩
      simp [text, split]
    | true =>
      -- The mark is taken for a part of the name.
      refine ⟨[⟨.ofList (name.toList ++ ['?']), type, false⟩], ?_, by simp⟩
      simp [text]
  · -- The type in the name is taken for the type of an earlier parameter.
    obtain ⟨before, id, after, split⟩ : ∃ before, ∃ id : ShapeId, ∃ after,
        name.toList = before ++ ':' :: (id.toHex.toList ++ ';' :: after) := by
      by_contra none
      exact h ⟨marked, fun before id after split => none ⟨before, id, after, split⟩⟩
    refine ⟨[⟨.ofList before, id, false⟩, ⟨.ofList after, type, optional⟩], ?_, by simp⟩
    simp [text, split]

theorem exists_twin_function {kind : FunctionKind} {params : List Param} {returns : ShapeId}
    (h : ¬ (function kind params returns).Plain) :
    ∃ params', (function kind params' returns).canonical
        = (function kind params returns).canonical ∧ params' ≠ params := by
  obtain ⟨p, member, odd⟩ : ∃ p ∈ params, ¬ p.Plain := by
    by_contra plain
    exact h fun p member => by_contra fun odd => plain ⟨p, member, odd⟩
  obtain ⟨before, after, rfl⟩ := List.append_of_mem member
  obtain ⟨list, texts, other⟩ := exists_twin_param odd
  refine ⟨before ++ (list ++ after), ?_, fun same => other ?_⟩
  · rw [← String.toList_inj, toList_canonical, toList_canonical]
    simp only [word, body, List.flatMap_append, List.flatMap_cons, texts]
  · exact List.append_cancel_right (List.append_cancel_left same)

/-- A shape that is not plain shares its canonical text with a shape that is not alike. -/
theorem exists_twin {s : Shape} (h : ¬ s.Plain) :
    ∃ t : Shape, t.canonical = s.canonical ∧ ¬ t.Alike s := by
  cases s with
  | generic params body =>
    obtain ⟨params', same, other⟩ := exists_twin_generic h
    exact ⟨generic params' body, same, fun alike => other (generic.inj alike).1⟩
  | function kind params returns =>
    obtain ⟨params', same, other⟩ := exists_twin_function h
    exact ⟨function kind params' returns, same, fun alike => other (function.inj alike).2.1⟩
  | _ => exact absurd trivial h

end Shape

end Schemata
