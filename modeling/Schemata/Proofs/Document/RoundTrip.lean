import Schemata.Proofs.Document.Form
import Schemata.Proofs.Json.Records

/-!
# Documents that are read back from their texts

A document is written with all its fields, and the reader finds each of them where it was written.
Expressions are read in two steps: those that are the type of a declaration straight from the text,
those inside them from the values of its parts.

A floating-point number is rounded when it is read, so a document is sure to be read back only if it
has none.  It is not enough that all its numbers are whole: a whole number outside of sixty-four
bits is kept as a floating-point number.

## Main definitions

* `Document.isExact` : does the text of a document tell it exactly?
* `Document.isWhole` : has a document no floating-point numbers?

## Main results

* `SourceType.ofBody?_parts` : an expression is read back, if the expressions inside it are.
* `SourceType.ofJson?_toJson`, `SourceType.readOutline_outline` : expressions are read back.
* `Document.read_write` : documents without floating-point numbers are read back from their texts.
* `Document.read_write_far` : a document with a large whole number is not.
-/

namespace Schemata

open Json Json.Outline

/-! ### Expressions -/

section Reads

/-- A record of which one part is left to be read. -/
theorem read_into {α β : Type} (make : α → β) {part : Option α} {a : α} (read : part = some a) :
    (part.bind fun a => some (make a)) = some (make a) := by
  rw [read, Option.bind_some]

variable {read : Json → Option SourceType}

theorem SourceField.ofJson?_toJson {field : SourceField}
    (reads : read field.type.toJson = some field.type) :
    SourceField.ofJson? read field.toJson = some field := by
  obtain ⟨name, optional, readonly, type⟩ := field
  exact read_into (SourceField.mk name optional readonly) reads

theorem SourceParam.ofJson?_toJson {param : SourceParam}
    (reads : read param.type.toJson = some param.type) :
    SourceParam.ofJson? read param.toJson = some param := by
  obtain ⟨name, optional, type⟩ := param
  exact read_into (SourceParam.mk name optional) reads

theorem SourcePerKey.ofJson?_toJson {value : SourcePerKey}
    (reads : ∀ type ∈ value.inner, read type.toJson = some type) :
    SourcePerKey.ofJson? read value.toJson = some value := by
  cases value with
  | replace type => exact read_into SourcePerKey.replace (reads type List.mem_cons_self)
  | _ => rfl

theorem SourceTransform.ofJson?_toJson {transform : SourceTransform}
    (reads : ∀ type ∈ transform.inner, read type.toJson = some type) :
    SourceTransform.ofJson? read transform.toJson = some transform := by
  cases transform with
  | pick keys => exact read_into SourceTransform.pick (list?_texts keys)
  | «omit» keys => exact read_into SourceTransform.omit (list?_texts keys)
  | record type => exact read_into SourceTransform.record (reads type List.mem_cons_self)
  | perKey name value =>
    exact read_into (SourceTransform.perKey name) (SourcePerKey.ofJson?_toJson reads)
  | _ => rfl

/-- An expression is read back from its parts, if the expressions inside it are. -/
theorem SourceType.ofBody?_parts {type : SourceType} (here : type.isExactHere)
    (reads : ∀ inside ∈ type.inner, read inside.toJson = some inside) :
    SourceType.ofBody? read type.kindName (.members type.parts) = some type := by
  cases type with
  | primitive type => cases type <;> rfl
  | literal value =>
    rw [isExactHere, Bool.and_eq_true] at here
    exact congrArg (some <| SourceType.literal ·) (sorted_of_isSorted value here.2)
  | array element => exact read_into SourceType.array (reads element List.mem_cons_self)
  | tuple elements => exact read_into SourceType.tuple (list?_map reads)
  | object fields =>
    have read' := list?_map fun field member =>
      SourceField.ofJson?_toJson (reads _ (List.mem_map_of_mem member))
    exact read_into SourceType.object read'
  | union members => exact read_into SourceType.union (list?_map reads)
  | intersection members => exact read_into SourceType.intersection (list?_map reads)
  | generic params body =>
    show (list? text? (Json.texts params)).bind (fun params =>
      (read body.toJson).bind fun body => some (SourceType.generic params body)) = _
    rw [list?_texts, reads body List.mem_cons_self]
    rfl
  | mapped source transform =>
    obtain ⟨first, reads⟩ := List.forall_mem_cons.mp reads
    show (read source.toJson).bind (fun source =>
      (SourceTransform.ofJson? read transform.toJson).bind fun transform =>
        some (SourceType.mapped source transform)) = _
    rw [first, SourceTransform.ofJson?_toJson reads]
    rfl
  | ref name args => exact read_into (SourceType.ref name) (list?_map reads)
  | function kind params returns =>
    obtain ⟨first, reads⟩ := List.forall_mem_cons.mp reads
    have read' := list?_map fun param member =>
      SourceParam.ofJson?_toJson (reads _ (List.mem_map_of_mem member))
    cases kind <;>
    · show (list? (SourceParam.ofJson? read) (.array (params.map SourceParam.toJson))).bind
        (fun params => (read returns.toJson).bind fun returns =>
          some (SourceType.function _ params returns)) = _
      rw [read', first]
      rfl
  | refined base constraint =>
    obtain ⟨min, max, pattern⟩ := constraint
    have base' := reads base List.mem_cons_self
    cases min <;> cases max <;> cases pattern <;> exact read_into (SourceType.refined · _) base'
  | _ => rfl

end Reads

namespace SourceType

/-- An expression is read back from the value that was written. -/
theorem ofJson?_toJson {budget : Nat} {type : SourceType} (told : type.isExact)
    (shallow : type.toJson.depth ≤ budget) : ofJson? budget type.toJson = some type := by
  -- The budget is spent by one for each expression around another, as the depth is.
  induction budget generalizing type with
  | zero =>
    rw [toJson_eq, depth] at shallow
    omega
  | succ budget ih =>
    obtain ⟨here, inside⟩ := isExact_iff.mp told
    have reads : ∀ s ∈ type.inner, ofJson? budget s.toJson = some s := fun s member =>
      ih (inside s member) (by have := depth_inner_lt member; omega)
    rw [ofJson?, toJson_eq, tagged?_object type.kindName_mem type.parts_ne_kind]
    exact ofBody?_parts here reads

/-- The same straight from the outline. -/
theorem readOutline_outline {budget : Nat} {type : SourceType} (told : type.isExact)
    (shallow : type.toJson.depth < budget) :
    readOutline budget type.toJson.outline = .ok type := by
  obtain ⟨here, inside⟩ := isExact_iff.mp told
  have reads : ∀ s ∈ type.inner, ofJson? budget s.toJson = some s := fun s member =>
    ofJson?_toJson (inside s member) (by have := depth_inner_lt member; omega)
  have parts := areExactMembers_parts here fun s member => isExact_toJson s (inside s member)
  have deep : depthMembers type.parts + 1 < budget := by
    rw [toJson_eq, depth, depthMembers] at shallow
    simpa [depth] using shallow
  rw [readOutline, toJson_eq, tagged_outline type.kindName_mem type.parts_ne_kind parts deep]
  show Json.required (ofBody? (ofJson? budget) type.kindName (.members type.parts)) = _
  rw [ofBody?_parts here reads]
  rfl

end SourceType

/-! ### Declarations and documents -/

namespace SourceDeclaration

/-- Does the text of the declaration tell its type exactly? -/
def isExact (d : SourceDeclaration) : Bool :=
  d.type.isExact

theorem isExact_toJson {d : SourceDeclaration} (told : d.isExact) : d.toJson.isExact := by
  simpa [toJson, isExact, isExact_texts] using d.type.isExact_toJson told

theorem readOutline_outline {d : SourceDeclaration} {budget : Nat} (told : d.isExact)
    (shallow : d.toJson.depth < budget) : readOutline budget d.toJson.outline = .ok d := by
  obtain ⟨name, kind, exported, params, type⟩ := d
  obtain ⟨inside, entered, deep⟩ := enter_of_lt shallow
  simp only [depthMembers, Nat.max_lt] at deep
  obtain ⟨-, -, -, deepParams, deepType, -⟩ := deep
  have isKind : kind.name ∈ DeclarationKind.all.map DeclarationKind.name := by
    cases kind <;> decide
  have kind' : DeclarationKind.ofName? kind.name = some kind := by cases kind <;> rfl
  have params' : (Json.texts params).outline.list (fun _ o => o.text) inside = .ok params :=
    list_outline deepParams fun text _ _ _ => text_outline text
  have type' : SourceType.readOutline inside type.toJson.outline = .ok type :=
    SourceType.readOutline_outline told deepType
  have record : recordMembers fields inside [] {} (outlineMembers [("name", .string name),
      ("kind", .string kind.name), ("exported", .bool exported), ("params", Json.texts params),
      ("type", type.toJson)])
      = .ok ⟨some name, some kind, some exported, some params, some type⟩ := by
    -- The reader looks the kind up by its name.
    rw [← kind']
    refine (recordMembers_cons rfl rfl rfl (read_field _ (text_outline name))).trans ?_
    refine (recordMembers_cons rfl rfl rfl (read_field _ (choice_outline isKind inside))).trans ?_
    refine (recordMembers_cons rfl rfl rfl rfl).trans ?_
    refine (recordMembers_cons rfl rfl rfl (read_field _ params')).trans ?_
    exact recordMembers_cons rfl rfl rfl (read_field _ type')
  rw [readOutline, toJson, outline, Outline.record, entered]
  simp only [bind, Except.bind]
  rw [record]
  rfl

end SourceDeclaration

namespace Document

/-- Does the text of the document tell the types of all declarations exactly? -/
def isExact (d : Document) : Bool :=
  d.declarations.all SourceDeclaration.isExact

/-- Has the document no floating-point numbers, in literals or as bounds of refined types? -/
def isWhole (d : Document) : Bool :=
  d.declarations.all (·.type.isWhole)

variable {d : Document}

theorem isExact_of_isWhole (whole : d.isWhole) : d.isExact := by
  rw [isExact, List.all_eq_true]
  exact fun declaration member =>
    declaration.type.isExact_of_isWhole (List.all_eq_true.mp whole declaration member)

theorem isExact_toJson (told : d.isExact) : d.toJson.isExact := by
  have all : areExact (d.declarations.map SourceDeclaration.toJson) := by
    rw [areExact, itemsPass_iff, List.forall_mem_map]
    exact fun declaration member =>
      SourceDeclaration.isExact_toJson (List.all_eq_true.mp told declaration member)
  simpa [toJson, isExact] using all

theorem readOutline_outline {budget : Nat} (told : d.isExact) (shallow : d.toJson.depth < budget) :
    readOutline budget d.toJson.outline = .ok d := by
  obtain ⟨file, declarations⟩ := d
  obtain ⟨inside, entered, deep⟩ := enter_of_lt shallow
  simp only [depthMembers, Nat.max_lt] at deep
  obtain ⟨-, deepList, -⟩ := deep
  have declarations' : (Json.array (declarations.map SourceDeclaration.toJson)).outline.list
      SourceDeclaration.readOutline inside = .ok declarations :=
    list_outline deepList fun declaration member _ deep =>
      SourceDeclaration.readOutline_outline (List.all_eq_true.mp told declaration member) deep
  have record : recordMembers fields inside [] {} (outlineMembers [("file", .string file),
      ("declarations", .array (declarations.map SourceDeclaration.toJson))])
      = .ok ⟨some file, some declarations⟩ := by
    refine (recordMembers_cons rfl rfl rfl (read_field _ (text_outline file))).trans ?_
    exact recordMembers_cons rfl rfl rfl (read_field _ declarations')
  rw [readOutline, toJson, outline, Outline.record, entered]
  simp only [bind, Except.bind]
  rw [record]
  rfl

/-- A document is read back from its text, if it is not nested too deeply for the reader and if the
text tells it exactly. -/
theorem read_write_of_isExact (told : d.isExact) (shallow : d.toJson.depth < depthLimit) :
    read d.write = .ok d := by
  rw [read, write, readText, ofText_compact (isExact_toJson told)]
  dsimp only
  rw [readOutline_outline told shallow]
  rfl

/-- A document without floating-point numbers is read back from its text, if it is not nested too
deeply for the reader. -/
theorem read_write (whole : d.isWhole) (shallow : d.toJson.depth < depthLimit) :
    read d.write = .ok d :=
  read_write_of_isExact (isExact_of_isWhole whole) shallow

/-- Every kind of expression, transform and per-key value, in one another and with their fields set
and left at their defaults. -/
def bazaar : Document where
  file := "stalls/\"north\"\\gate.ts"
  declarations :=
    [⟨"Every", .typeAlias, true, ["K", "V"], .generic ["T"] (.tuple
        [.primitive .bigint, .param "T", .ref "Stall" [.ref "Every" []],
          .unsupported "keyof\n\x01é",
          .array (.union [.primitive .null, .literal (.bool true), .literal (.string "")]),
          .intersection [.object [], .object [.mk "kind" true false (.literal (.int (-3)))]],
          .function .function [] (.primitive .never),
          .function .constructor [.mk "first" false (.param "T"), .mk "" true (.primitive .any)]
            (.function .method [] (.tuple [])),
          .refined (.primitive .integer) ⟨none, none, none⟩,
          .refined (.refined (.primitive .string) ⟨none, none, some "^\\d+$"⟩)
            ⟨none, none, some ""⟩])⟩,
      ⟨"Stall", .classType, false, [], .object
        [.mk "type" false true (.literal (.object
            [("a", .array [.null, .int 18446744073709551615, .int (-9223372036854775808)]),
              ("b", .object [("", .array []), ("\t", .object [])])])),
          .mk "rows" true true (.mapped (.mapped (.mapped (.ref "Stall" []) .toPartial) .toRequired)
            .toReadonly),
          .mk "keys" false false (.mapped (.mapped (.primitive .symbol) (.pick ["a", "b"]))
            (.omit [])),
          .mk "cells" false false (.mapped (.mapped (.mapped (.mapped (.mapped (.mapped
            (.primitive .unknown) (.record (.array (.primitive .date))))
            (.perKey "o" .optional)) (.perKey "n" .nullable)) (.perKey "l" .array))
            (.perKey "r" .readonly)) (.perKey "value" (.replace (.mapped (.param "V")
              (.perKey "" (.replace (.primitive .undefined)))))))]⟩,
      ⟨"", .interface, true, [], .primitive .boolean⟩]

theorem read_write_bazaar :
    bazaar.isWhole ∧ bazaar.toJson.depth < depthLimit ∧ read bazaar.write = .ok bazaar := by
  have whole : bazaar.isWhole := by decide +kernel
  have shallow : bazaar.toJson.depth < depthLimit := by decide +kernel
  exact ⟨whole, shallow, read_write whole shallow⟩

/-- A document with two to the power of sixty-seven as its only number. -/
def farText : String :=
  "\x7b\"file\":\"a.ts\",\"declarations\":[\x7b\"name\":\"Far\",\"type\":"
    ++ "\x7b\"kind\":\"literal\",\"value\":147573952589676412928\x7d\x7d]\x7d"

/-- All numbers of the document are whole, it has no bounds and is not nested deeply, but what is
read from its text is another document. -/
theorem read_write_far :
    ∃ d, read farText = .ok d ∧ d.toJson.depth < depthLimit ∧
      ∃ other, read d.write = .ok other ∧ other.write ≠ d.write ∧ other ≠ d := by
  have far : (read farText).toOption.any fun d => d.toJson.depth < depthLimit &&
      (read d.write).toOption.any fun other => other.write ≠ d.write := by
    decide +kernel
  cases read : read farText with
  | error error =>
    rw [read] at far
    cases far
  | ok d =>
    rw [read, Except.toOption, Option.any_some, Bool.and_eq_true, decide_eq_true_eq] at far
    refine ⟨d, rfl, far.1, ?_⟩
    cases again : Document.read d.write with
    | error error =>
      rw [again] at far
      cases far.2
    | ok other =>
      rw [again] at far
      have apart : other.write ≠ d.write := of_decide_eq_true far.2
      exact ⟨other, rfl, apart, fun same => apart (congrArg write same)⟩

end Document

end Schemata
