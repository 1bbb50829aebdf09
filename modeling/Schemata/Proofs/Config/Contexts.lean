import Mathlib.Data.List.Forall2
import Schemata.Config.Load
import Schemata.Proofs.Json.RoundTrip
import Schemata.Proofs.OrderedMap

/-!
# Contexts in configuration files

A context in a configuration is either a map from field names or a record with a mark and such a
map.  Nothing tells the two apart but the names in them, and the record is tried first.  So a map
from field names is read as it is written, whatever the names are, with one exception: if its only
name is `fields`, and the override of that field is itself a record of texts, then it has the form
of a record, and the names in the override are taken for names of fields.

## Main definitions

* `FieldOverride.Written` : how an override may be written in a map from field names.
* `ContextOverride.Written` : how such a map may be written.
* `ContextOverride.isAmbiguous` : the map has the form of a record too.
* `Config.settings?` : the settings that a configuration text gives.

## Main results

* `ContextOverride.ofJson?_of_written` : what a map from field names is read as.
* `Config.load_eq` : a configuration is put together from the settings of its text.
* `Config.load_direct` : maps from field names in configuration files.
-/

namespace Schemata

/-! ### Maps -/

/-- A part of a record whose names are all different. -/
theorem Json.Body.part_members (members : OrderedMap String Json) (name : String) (place : Nat) :
    (Body.members members.entries).part name place = some (members.get? name) := by
  rw [part, OrderedMap.filter_key]
  cases members.get? name <;> rfl

section Maps

variable {α : Type} {read : Json → Option α} {members : List (String × Json)}
  {entries : List (String × α)}

/-- Entries that are read from members one by one. -/
def Json.Entries (read : Json → Option α) : List (String × Json) → List (String × α) → Prop :=
  List.Forall₂ fun member entry => member.1 = entry.1 ∧ read member.2 = some entry.2

theorem Json.Entries.map? (each : Entries read members entries) :
    Json.map? read (.object members) = some (.ofList entries) := by
  have mapped : members.mapM (fun member => do return (member.1, ← read member.2))
      = some entries := by
    induction each with
    | nil => rfl
    | cons first _ ih =>
      rw [List.mapM_cons, ih]
      simp only [first.1, first.2]
      rfl
  exact congrArg (Option.bind · fun entries => some (OrderedMap.ofList entries)) mapped

theorem Json.Entries.lookup (each : Entries read members entries) (key : String) :
    entries.lookup key = (members.lookup key).bind read := by
  induction each with
  | nil => rfl
  | @cons member entry _ _ first _ ih =>
    rw [List.lookup_cons, List.lookup_cons, first.1]
    cases key == entry.1
    · exact ih
    · exact first.2.symm

theorem Json.exists_entries (readable : ∀ member ∈ members, (read member.2).isSome) :
    ∃ entries, Entries read members entries := by
  induction members with
  | nil => exact ⟨[], .nil⟩
  | cons member rest ih =>
    obtain ⟨here, later⟩ := List.forall_mem_cons.mp readable
    obtain ⟨a, isRead⟩ := Option.isSome_iff_exists.mp here
    obtain ⟨entries, each⟩ := ih later
    exact ⟨(member.1, a) :: entries, .cons ⟨rfl, isRead⟩ each⟩

/-- If all values of a map can be read, the last one under each key counts. -/
theorem Json.exists_map? (readable : ∀ member ∈ members, (read member.2).isSome) :
    ∃ map, Json.map? read (.object members) = some map ∧
      ∀ key, map.get? key = (members.reverse.lookup key).bind read := by
  obtain ⟨entries, each⟩ := Json.exists_entries readable
  have backward : Entries read members.reverse entries.reverse := List.forall₂_reverse_iff.mpr each
  refine ⟨.ofList entries, each.map?, fun key => ?_⟩
  rw [OrderedMap.get?_ofList, backward.lookup]

end Maps

/-! ### Overrides -/

/-- A message in a configuration; null is as good as none. -/
def messageJson : Option String → Json
  | none => .null
  | some message => .string message

/-- The ways to write an override in a map from field names: the text of a validator, or a record
with a validator and perhaps a message, in any order. -/
inductive FieldOverride.Written : Json → FieldOverride → Prop
  | text (validator : String) : Written (.string validator) ⟨validator, none, false⟩
  | record (validator : String) :
      Written (.object [("validator", .string validator)]) ⟨validator, none, false⟩
  | detailed (validator : String) (message : Option String) {members : List (String × Json)}
      (order : members.Perm
        [("validator", .string validator), ("errorMessage", messageJson message)]) :
      Written (.object members) ⟨validator, message, false⟩

private theorem eq_or_eq_of_perm_pair {α : Type} {a b : α} {l : List α} (order : l.Perm [a, b]) :
    l = [a, b] ∨ l = [b, a] := by
  obtain ⟨x, y, rfl⟩ := List.length_eq_two.mp order.length_eq
  rcases List.mem_pair.mp (order.subset List.mem_cons_self) with rfl | rfl
  · left
    rw [List.perm_singleton.mp order.cons_inv]
  · right
    have swapped := order.trans (List.Perm.swap x a [])
    rw [List.perm_singleton.mp swapped.cons_inv]

/-- Each of these ways is understood. -/
theorem FieldOverride.ofJson?_of_written {value : Json} {override : FieldOverride}
    (written : Written value override) : ofJson? value = some override := by
  cases written with
  | text validator => rfl
  | record validator => rfl
  | detailed validator message order =>
    rcases eq_or_eq_of_perm_pair order with rfl | rfl <;> cases message <;> rfl

/-! ### Contexts -/

namespace ContextOverride

/-- The ways to write a map from field names: each override in one of its ways, in order. -/
def Written (entry : OrderedMap String Json) (fields : OrderedMap String FieldOverride) : Prop :=
  List.Forall₂ (fun written field => written.1 = field.1 ∧ FieldOverride.Written written.2 field.2)
    entry.entries fields.entries

/-- A map whose only name is `fields`, with a record of texts under it. -/
def isAmbiguous : List (String × Json) → Bool
  | [(name, .object members)] => name = "fields" && members.all fun member => member.2.text?.isSome
  | _ => false

variable {entry : OrderedMap String Json} {fields : OrderedMap String FieldOverride}

theorem Written.of_get? (written : Written entry fields) {name : String} {value : Json}
    (found : entry.get? name = some value) : ∃ override, FieldOverride.Written value override := by
  obtain ⟨place, placed, here⟩ := List.getElem_of_mem (entry.get?_eq_some_iff.mp found)
  have own := (List.forall₂_iff_get.mp written).2 place placed (written.length_eq ▸ placed)
  rw [List.get_eq_getElem, here] at own
  exact ⟨_, own.2⟩

/-- A map from field names can be read as one. -/
theorem Written.map? (written : Written entry fields) :
    Json.map? FieldOverride.ofJson? (.object entry.entries) = some fields := by
  have each : Json.Entries FieldOverride.ofJson? entry.entries fields.entries :=
    written.imp fun _ _ first => ⟨first.1, FieldOverride.ofJson?_of_written first.2⟩
  rw [each.map?, OrderedMap.ofList_entries]

/-- An override gives no truth value. -/
theorem flag?_of_written {value : Json} {override : FieldOverride}
    (written : FieldOverride.Written value override) : value.flag? = none := by
  cases written <;> rfl

/-- Nor is it a map from field names, if it is not a record of texts. -/
theorem map?_of_not_texts {value : Json} {override : FieldOverride}
    (written : FieldOverride.Written value override)
    (other : isAmbiguous [("fields", value)] = false) :
    value.map? FieldOverride.ofJson? = none := by
  cases written with
  | text validator => rfl
  | record validator => cases other
  | detailed validator message order =>
    rcases eq_or_eq_of_perm_pair order with rfl | rfl <;> cases message
    · rfl
    · cases other
    · rfl
    · cases other

/-- The only name of a map that is called like a part of a record, and not like its mark. -/
theorem entries_eq_singleton {value : Json}
    (named : entry.entries.all (·.1 ∈ ["pattern", "fields"]))
    (unmarked : entry.get? "pattern" = none) (found : entry.get? "fields" = some value) :
    entry.entries = [("fields", value)] := by
  have own := entry.filter_key "fields"
  rw [found, List.filter_eq_self.mpr] at own
  · exact own
  · intro e member
    have either := List.all_eq_true.mp named e member
    have unlike : e.1 ≠ "pattern" := fun same =>
      entry.get?_eq_none_iff.mp unmarked (List.mem_map.mpr ⟨e, member, same⟩)
    simpa [unlike] using either

/-- A map that is not ambiguous is no record. -/
theorem Written.record?_eq_none (written : Written entry fields)
    (clear : isAmbiguous entry.entries = false) : record? (.object entry.entries) = none := by
  by_cases named : entry.entries.all (·.1 ∈ ["pattern", "fields"])
  · simp only [record?, if_pos named, Json.Body.part_members]
    cases marked : entry.get? "pattern" with
    | some value =>
      obtain ⟨override, own⟩ := written.of_get? marked
      simp [Json.optionalPart, flag?_of_written own]
    | none =>
      cases found : entry.get? "fields" with
      | none => rfl
      | some value =>
        obtain ⟨override, own⟩ := written.of_get? found
        rw [entries_eq_singleton named marked found] at clear
        simp [Json.requiredPart, map?_of_not_texts own clear]
  · simp only [record?, if_neg named]

theorem isAmbiguous_iff {listed : List (String × Json)} :
    isAmbiguous listed = true ↔ ∃ members, listed = [("fields", .object members)] ∧
      members.all fun member => member.2.text?.isSome := by
  constructor
  · intro ambiguous
    rcases listed with _ | ⟨⟨name, value⟩, _ | ⟨_, _⟩⟩
    · cases ambiguous
    · cases value with
      | object members =>
        obtain ⟨named, texts⟩ := (Bool.and_eq_true _ _).mp ambiguous
        exact ⟨members, by rw [of_decide_eq_true named], texts⟩
      | _ => cases ambiguous
    · simp [isAmbiguous] at ambiguous
  · rintro ⟨members, rfl, texts⟩
    exact texts

/-- An ambiguous map is a record without a mark, and the names in the override of its only field
are taken for names of fields. -/
theorem Written.exists_record? (written : Written entry fields)
    (ambiguous : isAmbiguous entry.entries = true) :
    ∃ others, record? (.object entry.entries) = some (.record false others) ∧
      others ≠ fields := by
  obtain ⟨members, only, texts⟩ := isAmbiguous_iff.mp ambiguous
  rw [Written, only] at written
  obtain ⟨⟨field, override⟩, rest, ⟨named, own⟩, -, listed⟩ :=
    List.forall₂_cons_left_iff.mp written
  dsimp only at named own
  have first (others : OrderedMap String FieldOverride) {name : String} {override : FieldOverride}
      {more : List (String × FieldOverride)} (head : others.entries = (name, override) :: more)
      (unlike : name ≠ "fields") : others ≠ fields := by
    rintro rfl
    rw [listed] at head
    cases head
    exact unlike named.symm
  rw [only]
  cases own with
  | record validator => exact ⟨_, rfl, first _ rfl (by simp)⟩
  | detailed validator message order =>
    rcases eq_or_eq_of_perm_pair order with rfl | rfl <;> cases message
    · cases texts
    · exact ⟨_, rfl, first _ rfl (by simp)⟩
    · cases texts
    · exact ⟨_, rfl, first _ rfl (by simp)⟩

/-- A map from field names is read as it is written, unless it is ambiguous. -/
theorem ofJson?_of_written (written : Written entry fields) :
    ∃ context, ofJson? (.object entry.entries) = some context ∧ context.isPattern = false ∧
      (context.fields = fields ↔ isAmbiguous entry.entries = false) := by
  cases form : isAmbiguous entry.entries with
  | false =>
    refine ⟨.direct fields, ?_, rfl, fun _ => rfl, fun _ => rfl⟩
    rw [ofJson?, written.record?_eq_none form, written.map?]
    rfl
  | true =>
    obtain ⟨others, isRecord, different⟩ := written.exists_record? form
    refine ⟨.record false others, ?_, rfl, fun same => absurd same different, nofun⟩
    rw [ofJson?, isRecord]
    rfl

end ContextOverride

/-! ### Settings -/

namespace Config

/-- The settings at the top of a JSON text. -/
def readTop (budget : Nat) : Json.Outline → Except Json.Refusal (List (String × Setting))
  | .object members fault => do
    let budget ← Json.Outline.enter budget
    let settings ← readSettings budget members
    Json.Outline.closed fault
    return settings
  | other => other.refuse

/-- A setting of a TOML text. -/
def tomlSetting? (member : String × Json) : Option (String × Setting) :=
  match sectionNames? member.1 with
  | some names => do return (member.1, .group (← groupOfValue? names member.2))
  | none => some (member.1, .value member.2)

/-- The settings that a text gives, in the format that the ending of its file tells. -/
def settings? (path : Path) (text : String) : Option (List (String × Setting)) :=
  match path.extension? with
  | some "toml" => do (← Toml.parse? text).mapM tomlSetting?
  | some "json" => (Json.readText readTop text).toOption
  | _ => none

theorem refuse_bind {α β : Type} (outline : Json.Outline) (next : α → Except Json.Refusal β) :
    outline.refuse >>= next = outline.refuse := by
  cases outline with
  | number n => cases refused : n.value <;> simp [Json.Outline.refuse, refused, bind, Except.bind]
  | string s => cases refused : s.text <;> simp [Json.Outline.refuse, refused, bind, Except.bind]
  | _ => rfl

theorem readJson_eq (budget : Nat) (outline : Json.Outline) :
    readJson budget outline
      = readTop budget outline >>= fun settings => Json.required (ofSettings? settings) := by
  cases outline with
  | object members fault => simp only [readJson, readTop, bind_assoc, pure_bind]
  | _ => simp only [readJson, readTop, refuse_bind]

theorem ofJsonText?_eq (text : String) :
    ofJsonText? text = (Json.readText readTop text).toOption >>= ofSettings? := by
  rw [ofJsonText?, Json.readText, Json.readText]
  obtain ⟨outline, more⟩ := Json.Outline.ofText text
  dsimp only
  rw [readJson_eq]
  cases readTop Json.Outline.depthLimit outline with
  | error refusal => rfl
  | ok settings =>
    -- Settings that give no configuration and a text that goes on are refused alike.
    cases more with
    | true =>
      simp only [bind, Except.bind]
      cases ofSettings? settings <;> rfl
    | false =>
      change _ = ofSettings? settings
      simp only [bind, Except.bind]
      cases ofSettings? settings <;> rfl

theorem ofTomlText?_eq (text : String) :
    ofTomlText? text = (do (← Toml.parse? text).mapM tomlSetting?) >>= ofSettings? := by
  rw [ofTomlText?]
  cases Toml.parse? text <;> rfl

variable {files : FileStore} {path : Path} {text : String} {settings : List (String × Setting)}

/-- A configuration is put together from the settings of its text. -/
theorem load_eq {config : Config} (isText : files.read path = .ok text)
    (told : settings? path text = some settings) (put : ofSettings? settings = some config) :
    load files path = .ok config := by
  rw [settings?] at told
  split at told
  next toml =>
    simp only [load, isText, toml, ofTomlText?_eq, told, Option.bind_eq_bind, Option.bind_some, put]
  next json =>
    simp only [load, isText, json, ofJsonText?_eq, told, Option.bind_eq_bind, Option.bind_some, put]
  next => cases told

/-! ### Contexts among the settings -/

/-- The settings besides the contexts. -/
def otherSettings (settings : List (String × Setting)) : List (String × Setting) :=
  settings.filter (·.1 ≠ "contexts")

theorem filter_otherSettings {name : String} (unlike : name ≠ "contexts") :
    (otherSettings settings).filter (·.1 = name) = settings.filter (·.1 = name) := by
  rw [otherSettings, List.filter_filter]
  exact List.filter_congr fun setting _ => by grind

theorem valueOf?_otherSettings {name : String} (unlike : name ≠ "contexts") :
    valueOf? (otherSettings settings) name = valueOf? settings name := by
  rw [valueOf?, filter_otherSettings unlike, valueOf?]

theorem groupOf?_otherSettings {name : String} (unlike : name ≠ "contexts") :
    groupOf? (otherSettings settings) name = groupOf? settings name := by
  rw [groupOf?, filter_otherSettings unlike, groupOf?]

theorem valueOf?_otherSettings_contexts :
    valueOf? (otherSettings settings) "contexts" = some none := by
  have none_left : (otherSettings settings).filter (·.1 = "contexts") = [] := by
    rw [otherSettings, List.filter_filter]
    exact List.filter_eq_nil_iff.mpr fun setting _ => by grind
  rw [valueOf?, none_left]

/-- The configuration with the given contexts. -/
def withContexts (contexts : OrderedMap String ContextOverride) (config : Config) : Config :=
  { config with overrides := { config.overrides with contexts } }

theorem overrides_of_contexts {contexts : Json} {read : OrderedMap String ContextOverride}
    (isRead : contexts.map? ContextOverride.ofJson? = some read) (validators : Option Json) :
    Overrides.ofJson? validators (some contexts)
      = (Overrides.ofJson? validators none).map fun overrides =>
          { overrides with contexts := read } := by
  rw [Overrides.ofJson?, Overrides.ofJson?]
  cases Json.optionalPart (Json.map? FieldOverride.ofJson?) .empty validators with
  | none => rfl
  | some _ => simp [Json.optionalPart, isRead]

/-- The contexts are added to what the other settings give. -/
theorem ofSettings?_of_contexts {contexts : Json} {read : OrderedMap String ContextOverride}
    (given : valueOf? settings "contexts" = some (some contexts))
    (isRead : contexts.map? ContextOverride.ofJson? = some read) :
    ofSettings? settings = (ofSettings? (otherSettings settings)).map (withContexts read) := by
  simp (disch := decide) only [ofSettings?, flagOf?, given, valueOf?_otherSettings_contexts,
    valueOf?_otherSettings, groupOf?_otherSettings]
  -- Both sides take the same steps; the contexts come in at the last one.
  simp only [overrides_of_contexts isRead, Option.bind_eq_bind, Option.map_bind, Option.bind_map,
    Function.comp_def, Option.bind_some, Option.pure_def, Option.map_some, withContexts]

/-- If the other settings and all contexts are right, the last context under each key counts. -/
theorem load_contexts {contexts : List (String × Json)} {base : Config}
    (isText : files.read path = .ok text) (told : settings? path text = some settings)
    (rest : ofSettings? (otherSettings settings) = some base)
    (given : valueOf? settings "contexts" = some (some (.object contexts)))
    (readable : ∀ context ∈ contexts, (ContextOverride.ofJson? context.2).isSome) :
    ∃ read, load files path = .ok (withContexts read base) ∧
      ∀ key, read.get? key = (contexts.reverse.lookup key).bind ContextOverride.ofJson? := by
  obtain ⟨read, isRead, found⟩ := Json.exists_map? readable
  refine ⟨read, load_eq isText told ?_, found⟩
  rw [ofSettings?_of_contexts given isRead, rest]
  rfl

/-! ### Written configurations -/

theorem readSettings_outlineMembers {members : List (String × Json)} {budget : Nat}
    (told : Json.areExactMembers members) (shallow : Json.depthMembers members < budget)
    (plain : ∀ member ∈ members, sectionNames? member.1 = none) :
    readSettings budget (Json.outlineMembers members)
      = .ok (members.map fun member => (member.1, .value member.2)) := by
  induction members with
  | nil => rfl
  | cons member rest ih =>
    obtain ⟨name, value⟩ := member
    rw [Json.areExactMembers, Json.membersPass, Bool.and_eq_true] at told
    rw [Json.depthMembers] at shallow
    obtain ⟨here, later⟩ := List.forall_mem_cons.mp plain
    have inside : value.depth < budget := by omega
    rw [Json.outlineMembers, readSettings, Json.text_quotedLexeme, ih told.2 (by omega) later]
    simp only [bind, Except.bind, here, Json.value_outline value told.1 inside]
    rfl

/-- The settings of a written configuration without sections are its members. -/
theorem settings?_compact {members : List (String × Json)} (json : path.extension? = some "json")
    (told : (Json.object members).isExact)
    (shallow : (Json.object members).depth < Json.Outline.depthLimit)
    (plain : ∀ member ∈ members, sectionNames? member.1 = none) :
    settings? path (Json.object members).compact
      = some (members.map fun member => (member.1, .value member.2)) := by
  obtain ⟨inside, entered, deep⟩ := Json.enter_of_lt shallow
  have read := readSettings_outlineMembers told deep plain
  simp only [settings?, json, Json.readText, Json.ofText_compact told, Json.outline, readTop,
    entered, bind, Except.bind, read]
  rfl

/-- A configuration of one context. -/
def formText (entry : OrderedMap String Json) : String :=
  (Json.object [("contexts", .object [("Form", .object entry.entries)])]).compact

/-- A directory with nothing but a configuration of one context. -/
def formStore (entry : OrderedMap String Json) : FileStore where
  entries := .ofList [(["shapecheck.json"], .file ⟨formText entry, 0⟩)]
  workDir := []
  now := 0

theorem read_formStore (entry : OrderedMap String Json) :
    (formStore entry).read ⟨"shapecheck.json"⟩ = .ok (formText entry) :=
  rfl

theorem settings?_formText {entry : OrderedMap String Json}
    (told : Json.areExactMembers entry.entries) (shallow : Json.depthMembers entry.entries < 100) :
    settings? ⟨"shapecheck.json"⟩ (formText entry)
      = some [("contexts", .value (.object [("Form", .object entry.entries)]))] := by
  refine settings?_compact rfl ?_ ?_ (List.forall_mem_singleton.mpr rfl)
  · simpa using told
  · simp only [Json.depth, Json.depthMembers, Json.Outline.depthLimit]
    omega

/-! ### Maps from field names -/

/-- A map from field names in a configuration file gives a context that is no pattern.  Its
overrides are those of the map, in order, whatever the names are, unless the map is ambiguous. -/
theorem load_direct {contexts : List (String × Json)} {key : String}
    {entry : OrderedMap String Json} {fields : OrderedMap String FieldOverride} {base : Config}
    (isText : files.read path = .ok text) (told : settings? path text = some settings)
    (rest : ofSettings? (otherSettings settings) = some base)
    (given : valueOf? settings "contexts" = some (some (.object contexts)))
    (last : contexts.reverse.lookup key = some (.object entry.entries))
    (written : ContextOverride.Written entry fields)
    (readable : ∀ context ∈ contexts, context ≠ (key, .object entry.entries) →
      (ContextOverride.ofJson? context.2).isSome) :
    ∃ read context, load files path = .ok (withContexts read base) ∧
      read.get? key = some context ∧ context.isPattern = false ∧
      (context.fields = fields ↔ ContextOverride.isAmbiguous entry.entries = false) := by
  obtain ⟨context, isRead, unmarked, exactly⟩ := ContextOverride.ofJson?_of_written written
  have allReadable : ∀ c ∈ contexts, (ContextOverride.ofJson? c.2).isSome := by
    intro c listed
    by_cases own : c = (key, .object entry.entries)
    · rw [own, isRead]
      rfl
    · exact readable c listed own
  obtain ⟨read, loaded, found⟩ := load_contexts isText told rest given allReadable
  refine ⟨read, context, loaded, ?_, unmarked, exactly⟩
  rw [found, last]
  exact isRead

/-- Fields with the names of the two parts of a record. -/
def partNames : OrderedMap String Json :=
  .ofList [
    ("fields", .object [
      ("errorMessage", .string "no list"), ("validator", .string "z.array(z.any())")]),
    ("pattern", .string "z.string()")]

theorem load_direct_partNames : ∃ read context,
    load (formStore partNames) ⟨"shapecheck.json"⟩ = .ok (withContexts read {}) ∧
      read.get? "Form" = some context ∧ context.isPattern = false ∧
      context.fields = .ofList [
        ("fields", ⟨"z.array(z.any())", some "no list", false⟩),
        ("pattern", ⟨"z.string()", none, false⟩)] := by
  have written : ContextOverride.Written partNames (.ofList [
      ("fields", ⟨"z.array(z.any())", some "no list", false⟩),
      ("pattern", ⟨"z.string()", none, false⟩)]) :=
    .cons ⟨rfl, .detailed _ (some _) (.swap _ _ _)⟩ (.cons ⟨rfl, .text _⟩ .nil)
  have only : ∀ context ∈ [("Form", Json.object partNames.entries)],
      context ≠ ("Form", .object partNames.entries) →
      (ContextOverride.ofJson? context.2).isSome :=
    fun context listed other => absurd (List.mem_singleton.mp listed) other
  obtain ⟨read, context, loaded, found, unmarked, exactly⟩ :=
    load_direct (read_formStore partNames) (settings?_formText (by decide) (by decide))
      rfl rfl rfl written only
  exact ⟨read, context, loaded, found, unmarked, exactly.mpr rfl⟩

/-- A single field with the name of the map in a record. -/
def fieldsName : OrderedMap String Json :=
  .ofList [("fields", .object [
    ("validator", .string "z.array(z.string())"), ("errorMessage", .string "bad")])]

/-- The override of a field is taken apart, and its message becomes a validator. -/
theorem load_fieldsName :
    ContextOverride.Written fieldsName
        (.ofList [("fields", ⟨"z.array(z.string())", some "bad", false⟩)]) ∧
      load (formStore fieldsName) ⟨"shapecheck.json"⟩ = .ok (withContexts
        (.ofList [("Form", .record false (.ofList [
          ("validator", ⟨"z.array(z.string())", none, false⟩),
          ("errorMessage", ⟨"bad", none, false⟩)]))]) {}) := by
  constructor
  · exact .cons ⟨rfl, .detailed _ (some _) (.refl _)⟩ .nil
  · exact load_eq (read_formStore fieldsName) (settings?_formText (by decide) (by decide)) rfl

end Config

end Schemata
