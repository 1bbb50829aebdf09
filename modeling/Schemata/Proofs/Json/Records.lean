import Schemata.Document.Read
import Schemata.Document.Write
import Schemata.Proofs.Json.RoundTrip

/-!
# Records that are read back from their texts

Records and lists are read in two ways, from values and straight from the outline of a text.  Either
way, what was written with the tag first and with one member per field is read part by part.

## Main results

* `Json.tagged?_object`, `Json.tagged_outline` : tagged records.
* `Json.list?_map`, `Json.Outline.list_outline` : lists.
* `Json.Outline.recordMembers_cons` : records, one member after the other.
-/

namespace Schemata.Json

/-! ### Tagged records -/

section Tagged

variable {name tag : String} {tags : List String} {parts : List (String × Json)}
  (known : tag ∈ tags) (apart : ∀ part ∈ parts, part.1 ≠ name)

include known apart

/-- A tagged record with its tag first is read as the tag and the other parts. -/
theorem tagged?_object :
    tagged? name tags (.object ((name, .string tag) :: parts)) = some (tag, .members parts) := by
  have none_other : parts.filter (·.1 = name) = [] :=
    List.filter_eq_nil_iff.mpr fun part member => by simpa using apart part member
  have others : parts.filter (·.1 ≠ name) = parts :=
    List.filter_eq_self.mpr fun part member => by simpa using apart part member
  have first : ((name, Json.string tag) :: parts).filter (·.1 = name) = [(name, .string tag)] := by
    rw [List.filter_cons_of_pos (by simp), none_other]
  have rest : ((name, Json.string tag) :: parts).filter (·.1 ≠ name) = parts := by
    rw [List.filter_cons_of_neg (by simp), others]
  rw [tagged?, first]
  dsimp only
  rw [rest, tag?, if_pos known]
  rfl

omit known in
theorem taggedMembers_outlineMembers {budget : Nat} (told : areExactMembers parts)
    (shallow : depthMembers parts < budget) (found : Option String)
    (done : List (String × Json)) :
    Outline.taggedMembers budget name tags found done (outlineMembers parts)
      = .ok (found, done ++ parts) := by
  induction parts generalizing done with
  | nil => simp [outlineMembers, Outline.taggedMembers]
  | cons part rest ih =>
    obtain ⟨key, value⟩ := part
    obtain ⟨other, apart⟩ := List.forall_mem_cons.mp apart
    rw [areExactMembers, membersPass, Bool.and_eq_true] at told
    rw [depthMembers] at shallow
    rw [outlineMembers, Outline.taggedMembers, text_quotedLexeme]
    simp only [bind, Except.bind]
    rw [if_neg other, value_outline value told.1 (by omega)]
    dsimp only
    rw [ih apart told.2 (by omega), List.append_assoc]
    rfl

/-- The same when the record is read from its text. -/
theorem tagged_outline {budget : Nat} (told : areExactMembers parts)
    (shallow : depthMembers parts + 1 < budget) :
    (Json.object ((name, .string tag) :: parts)).outline.tagged name tags budget
      = .ok (tag, .members parts) := by
  obtain ⟨inside, entered, deep⟩ := enter_of_lt shallow
  have tagged : (Json.string tag).outline.tag tags = .ok tag := by
    simp only [outline, Outline.tag, Outline.text, text_quotedLexeme, bind, Except.bind,
      if_pos known]
    rfl
  rw [outline, outlineMembers, Outline.tagged, entered]
  simp only [bind, Except.bind, Outline.taggedMembers, text_quotedLexeme, if_true, tagged,
    Option.isSome_none, Bool.false_eq_true, if_false]
  rw [taggedMembers_outlineMembers apart told deep]
  rfl

end Tagged

/-! ### Lists -/

theorem list?_map {α : Type} {read : Json → Option α} {write : α → Json} {values : List α}
    (reads : ∀ a ∈ values, read (write a) = some a) :
    list? read (.array (values.map write)) = some values := by
  show (values.map write).mapM read = some values
  induction values with
  | nil => rfl
  | cons a rest ih =>
    obtain ⟨first, reads⟩ := List.forall_mem_cons.mp reads
    rw [List.map_cons, List.mapM_cons, first, ih reads]
    rfl

theorem list?_texts (texts : List String) : list? text? (Json.texts texts) = some texts :=
  list?_map fun _ _ => rfl

theorem listItems_outlineItems {α : Type} {read : Outline → Except Refusal α} {write : α → Json}
    {values : List α} (reads : ∀ a ∈ values, read (write a).outline = .ok a) :
    Outline.listItems read (outlineItems (values.map write)) = .ok values := by
  induction values with
  | nil => rfl
  | cons a rest ih =>
    obtain ⟨first, reads⟩ := List.forall_mem_cons.mp reads
    rw [List.map_cons, outlineItems, Outline.listItems, first, ih reads]
    rfl

namespace Outline

/-! ### Fields of records -/

/-- A field of which one value is left to be read. -/
theorem read_field {α σ : Type} (make : α → σ) {value : Except Refusal α} {a : α}
    (read : value = .ok a) : (value >>= fun a => .ok (make a)) = .ok (make a) := by
  rw [read]
  rfl

theorem text_outline (text : String) : (Json.string text).outline.text = .ok text :=
  text_quotedLexeme text

theorem choice_outline {name : String} {names : List String} (known : name ∈ names) (budget : Nat) :
    (Json.string name).outline.choice names budget = .ok name := by
  rw [outline, choice, text_quotedLexeme]
  simp only [bind, Except.bind, if_pos known]
  rfl

/-- A list of values that are read back is read back. -/
theorem list_outline {α : Type} {read : Nat → Outline → Except Refusal α} {write : α → Json}
    {values : List α} {budget : Nat} (shallow : (Json.array (values.map write)).depth < budget)
    (reads : ∀ a ∈ values, ∀ inside, (write a).depth < inside →
      read inside (write a).outline = .ok a) :
    (Json.array (values.map write)).outline.list read budget = .ok values := by
  obtain ⟨inside, entered, deep⟩ := enter_of_lt shallow
  have all : ∀ a ∈ values, read inside (write a).outline = .ok a := by
    intro a member
    have := depth_lt_of_mem_items (List.mem_map.mpr ⟨a, member, rfl⟩ : write a ∈ values.map write)
    rw [depth] at this
    exact reads a member inside (by omega)
  rw [outline, list, entered]
  simp only [bind, Except.bind, listItems_outlineItems all]
  rfl

/-- A member with the name of a field is read into that field. -/
theorem recordMembers_cons {σ : Type} {fields : List (FieldReader σ)} {budget place : Nat}
    {seen : List Nat} {state : σ} {key : String} {item : Outline} {field : FieldReader σ}
    {rest : List (StringLexeme × Outline)} {next : σ}
    (found : fields.findIdx? (·.names.contains key) = some place)
    (new : seen.contains place = false) (isField : fields[place]? = some field)
    (read : field.read budget item state = .ok next) :
    recordMembers fields budget seen state ((quotedLexeme key, item) :: rest)
      = recordMembers fields budget (place :: seen) next rest := by
  rw [recordMembers, text_quotedLexeme]
  simp only [bind, Except.bind, found, new, Bool.false_eq_true, if_false, isField, read]

end Outline

end Schemata.Json
