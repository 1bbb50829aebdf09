import Schemata.Proofs.OrderedMap
import Schemata.Rules.Overrides

/-!
# Overrides that are added one by one

Overrides can be put together by calls, each of which adds one rule.  A call changes the entry of
its own key only, and inside a context the rule of its own field only.  Afterwards the table has the
rule, with one exception: what is said about the contexts that match a pattern is lost if the text
of that pattern was used as the name of a context before it was used as a pattern.

## Main definitions

* `Overrides.Call` : one call that adds a rule.
* `Overrides.build` : the overrides that a list of calls makes.
* `Overrides.Call.Added` : a table has the rule of a call.
* `Overrides.Call.Spared` : two tables agree on what a call has to leave alone.
* `Overrides.Call.isLost` : the first call about the context took the pattern for a name.

## Main results

* `Overrides.Opened.after`, `Overrides.opened_build` : the first call about a context decides how
  its overrides are kept.
* `Overrides.build_added_iff` : a call adds its rule exactly if it is not lost.
-/

namespace Schemata

/-! ### Tables -/

/-- The rules that a table lists under the key of a context. -/
def RuleTable.listed (table : RuleTable) (key : String) : List (String × Rule) :=
  (table.contexts.filter (·.key = key)).flatMap ContextEntry.fields

namespace ContextOverride

theorem fields_insert (context : ContextOverride) (name : String) (override : FieldOverride) :
    (context.insert name override).fields = context.fields.insert name override := by
  cases context <;> rfl

/-- Other fields stay as they are, also if the override is not set. -/
theorem erase_fields_insertPattern (context : ContextOverride) (name : String)
    (override : FieldOverride) :
    (context.insertPattern name override).fields.erase name = context.fields.erase name := by
  cases context with
  | direct fields => rfl
  | record pattern fields => exact OrderedMap.erase_insert ..

end ContextOverride

namespace Overrides

/-- The entry of a field in the table. -/
def fieldEntry (key : String) (override : FieldOverride) : FieldEntry :=
  ⟨key, override.pattern, ruleOf override⟩

/-- The entry of a context in the table. -/
def contextEntry (key : String) (context : ContextOverride) : ContextEntry :=
  ⟨key, context.isPattern, context.fields.entries.map fun e => (e.1, ruleOf e.2)⟩

variable (o : Overrides) (key : String)

theorem filter_key_fields : o.table.fields.filter (·.key = key)
    = (o.validators.get? key).toList.map (fieldEntry key) := by
  have own : o.table.fields.filter (·.key = key)
      = (o.validators.entries.filter (·.1 = key)).map fun e => fieldEntry e.1 e.2 :=
    List.filter_map
  rw [own, OrderedMap.filter_key, List.map_map]
  rfl

theorem filter_key_contexts : o.table.contexts.filter (·.key = key)
    = (o.contexts.get? key).toList.map (contextEntry key) := by
  have own : o.table.contexts.filter (·.key = key)
      = (o.contexts.entries.filter (·.1 = key)).map fun e => contextEntry e.1 e.2 :=
    List.filter_map
  rw [own, OrderedMap.filter_key, List.map_map]
  rfl

theorem filter_ne_fields : o.table.fields.filter (·.key ≠ key)
    = (o.validators.erase key).entries.map fun e => fieldEntry e.1 e.2 :=
  List.filter_map

theorem filter_ne_contexts : o.table.contexts.filter (·.key ≠ key)
    = (o.contexts.erase key).entries.map fun e => contextEntry e.1 e.2 :=
  List.filter_map

theorem filter_contextEntry_fields (context : ContextOverride) (name : String) :
    (contextEntry key context).fields.filter (·.1 = name)
      = (context.fields.get? name).toList.map fun override => (name, ruleOf override) := by
  have own : (contextEntry key context).fields.filter (·.1 = name)
      = (context.fields.entries.filter (·.1 = name)).map fun e => (e.1, ruleOf e.2) :=
    List.filter_map
  rw [own, OrderedMap.filter_key, List.map_map]
  rfl

/-- The rules for other fields, under the key of a context that is kept in `context`. -/
theorem filter_listed {context : ContextOverride} (found : o.contexts.get? key = some context)
    (name : String) : (o.table.listed key).filter (·.1 ≠ name)
      = (context.fields.erase name).entries.map fun e => (e.1, ruleOf e.2) := by
  rw [RuleTable.listed, filter_key_contexts, found]
  simp only [Option.toList_some, List.map_cons, List.map_nil, List.flatMap_singleton]
  exact List.filter_map

theorem listed_of_absent (absent : o.contexts.get? key = none) : o.table.listed key = [] := by
  rw [RuleTable.listed, filter_key_contexts, absent]
  rfl

/-! ### Calls -/

/-- One call that adds a rule. -/
inductive Call
  | field (name validator : String)
  | fieldPattern (pattern validator : String)
  | contextField (context name validator : String)
  | contextPattern (pattern name validator : String)
deriving DecidableEq, Repr

/-- The overrides after a call. -/
def after (o : Overrides) : Call → Overrides
  | .field name validator => o.field name validator
  | .fieldPattern pattern validator => o.fieldPattern pattern validator
  | .contextField context name validator => o.contextField context name validator
  | .contextPattern pattern name validator => o.contextPattern pattern name validator

/-- The overrides that a list of calls makes. -/
def build (calls : List Call) : Overrides :=
  calls.foldl after empty

namespace Call

/-- The table has the rule of a call: under its key it has one entry, with the right mark, and that
entry lists the field once, with the validator of the call. -/
def Added (table : RuleTable) : Call → Prop
  | field name validator =>
    table.fields.filter (·.key = name) = [⟨name, false, ⟨validator, none⟩⟩]
  | fieldPattern pattern validator =>
    table.fields.filter (·.key = pattern) = [⟨pattern, true, ⟨validator, none⟩⟩]
  | contextField context name validator =>
    ∃ entry, table.contexts.filter (·.key = context) = [entry] ∧
      entry.fields.filter (·.1 = name) = [(name, ⟨validator, none⟩)]
  | contextPattern pattern name validator =>
    ∃ entry, table.contexts.filter (·.key = pattern) = [entry] ∧ entry.pattern ∧
      entry.fields.filter (·.1 = name) = [(name, ⟨validator, none⟩)]

/-- The entries under other keys are the same, in the same order, and so are the rules for other
fields under the same context. -/
def Spared (table table' : RuleTable) : Call → Prop
  | field key _ | fieldPattern key _ =>
    table'.contexts = table.contexts ∧
      table'.fields.filter (·.key ≠ key) = table.fields.filter (·.key ≠ key)
  | contextField key name _ | contextPattern key name _ =>
    table'.fields = table.fields ∧
      table'.contexts.filter (·.key ≠ key) = table.contexts.filter (·.key ≠ key) ∧
      (table'.listed key).filter (·.1 ≠ name) = (table.listed key).filter (·.1 ≠ name)

/-- What a call about the context `key` takes the key for: a pattern, or a name. -/
def mark? (key : String) : Call → Option Bool
  | field _ _ => none
  | fieldPattern _ _ => none
  | contextField context _ _ => if context = key then some false else none
  | contextPattern pattern _ _ => if pattern = key then some true else none

/-- Is the call, made after other calls, about a pattern that was taken for a name first? -/
def isLost (calls : List Call) : Call → Bool
  | contextPattern pattern _ _ => calls.findSome? (mark? pattern) = some false
  | _ => false

end Call

/-! ### The first call about a context -/

/-- How the overrides of a context are kept, after a first call that took its key for a pattern or
for a name. -/
def Opened (o : Overrides) (key : String) : Option Bool → Prop
  | none => o.contexts.get? key = none
  | some false => ∃ fields, o.contexts.get? key = some (.direct fields)
  | some true => ∃ fields, o.contexts.get? key = some (.record true fields)

theorem Opened.congr {o o' : Overrides} {key : String} {mark : Option Bool}
    (opened : o.Opened key mark) (same : o'.contexts.get? key = o.contexts.get? key) :
    o'.Opened key mark := by
  rcases mark with _ | _ | _ <;> simpa only [Opened, same] using opened

/-- A call that is not about a context leaves it alone. -/
theorem get?_contexts_after {o : Overrides} {key : String} {call : Call}
    (elsewhere : call.mark? key = none) :
    (o.after call).contexts.get? key = o.contexts.get? key := by
  cases call with
  | field name validator => rfl
  | fieldPattern pattern validator => rfl
  | contextField context name validator =>
    have other : context ≠ key := by simpa [Call.mark?] using elsewhere
    exact (OrderedMap.get?_insert ..).trans (if_neg other.symm)
  | contextPattern pattern name validator =>
    have other : pattern ≠ key := by simpa [Call.mark?] using elsewhere
    exact (OrderedMap.get?_insert ..).trans (if_neg other.symm)

/-- Whatever the first call about a context was, later ones do not change how it is kept. -/
theorem Opened.after {o : Overrides} {key : String} {mark : Option Bool}
    (opened : o.Opened key mark) (call : Call) :
    (o.after call).Opened key (mark.or (call.mark? key)) := by
  cases marked : call.mark? key with
  | none =>
    rw [Option.or_none]
    exact opened.congr (get?_contexts_after marked)
  | some isPattern =>
    cases call with
    | field name validator => cases marked
    | fieldPattern pattern validator => cases marked
    | contextField context name validator =>
      obtain ⟨rfl, rfl⟩ : context = key ∧ isPattern = false := by simpa [Call.mark?] using marked
      rcases mark with _ | _ | _
      · have absent : o.contexts.get? context = none := opened
        simp [Opened, Overrides.after, contextField, ContextOverride.insert, absent]
      all_goals
        obtain ⟨fields, found⟩ := opened
        simp [Opened, Overrides.after, contextField, ContextOverride.insert, found]
    | contextPattern pattern name validator =>
      obtain ⟨rfl, rfl⟩ : pattern = key ∧ isPattern = true := by simpa [Call.mark?] using marked
      rcases mark with _ | _ | _
      · have absent : o.contexts.get? pattern = none := opened
        simp [Opened, Overrides.after, contextPattern, ContextOverride.insertPattern, absent]
      all_goals
        obtain ⟨fields, found⟩ := opened
        simp [Opened, Overrides.after, contextPattern, ContextOverride.insertPattern, found]

theorem Opened.foldl {o : Overrides} {key : String} {mark : Option Bool}
    (opened : o.Opened key mark) (calls : List Call) :
    (calls.foldl Overrides.after o).Opened key (mark.or (calls.findSome? (Call.mark? key))) := by
  induction calls generalizing o mark with
  | nil => simpa using opened
  | cons call rest ih =>
    have later := ih (opened.after call)
    rw [Option.or_assoc] at later
    rw [List.findSome?_cons]
    cases found : call.mark? key <;> simpa [found] using later

/-- The first call about a context decides how its overrides are kept. -/
theorem opened_build (calls : List Call) (key : String) :
    (build calls).Opened key (calls.findSome? (Call.mark? key)) := by
  have start : empty.Opened key none := OrderedMap.get?_empty key
  exact start.foldl calls

/-! ### What one call does -/

section Effects

variable {o : Overrides} {key name : String}

/-- Setting the override of a field is seen in its own entry. -/
theorem filter_key_setField (override : FieldOverride) :
    ({ o with validators := o.validators.insert key override } : Overrides).table.fields.filter
      (·.key = key) = [fieldEntry key override] := by
  rw [filter_key_fields, OrderedMap.get?_insert_self]
  rfl

/-- Setting the override of a field is seen in no other entry. -/
theorem filter_ne_setField (override : FieldOverride) :
    ({ o with validators := o.validators.insert key override } : Overrides).table.fields.filter
      (·.key ≠ key) = o.table.fields.filter (·.key ≠ key) := by
  rw [filter_ne_fields, filter_ne_fields, OrderedMap.erase_insert]

/-- Setting the overrides of a context is seen in its own entry. -/
theorem filter_key_setContext (context : ContextOverride) :
    ({ o with contexts := o.contexts.insert key context } : Overrides).table.contexts.filter
      (·.key = key) = [contextEntry key context] := by
  rw [filter_key_contexts, OrderedMap.get?_insert_self]
  rfl

/-- Changing one field of a context, which may have been missing, is seen in no other entry and in
no other field. -/
theorem spared_setContext (start : ContextOverride) (blank : start.fields = .empty)
    {context : ContextOverride}
    (kept : context.fields.erase name = ((o.contexts.get? key).getD start).fields.erase name) :
    let o' : Overrides := { o with contexts := o.contexts.insert key context }
    o'.table.contexts.filter (·.key ≠ key) = o.table.contexts.filter (·.key ≠ key) ∧
      (o'.table.listed key).filter (·.1 ≠ name) = (o.table.listed key).filter (·.1 ≠ name) := by
  refine ⟨by rw [filter_ne_contexts, filter_ne_contexts, OrderedMap.erase_insert], ?_⟩
  rw [filter_listed _ _ (OrderedMap.get?_insert_self ..), kept]
  cases found : o.contexts.get? key with
  | none =>
    rw [listed_of_absent _ _ found, Option.getD_none, blank]
    rfl
  | some old => rw [filter_listed _ _ found, Option.getD_some]

end Effects

/-- A call leaves everything else alone. -/
theorem spared_after (o : Overrides) (call : Call) : call.Spared o.table (o.after call).table := by
  cases call with
  | field name validator => exact ⟨rfl, filter_ne_setField _⟩
  | fieldPattern pattern validator => exact ⟨rfl, filter_ne_setField _⟩
  | contextField context name validator =>
    refine ⟨rfl, spared_setContext (.direct .empty) rfl ?_⟩
    rw [ContextOverride.fields_insert, OrderedMap.erase_insert]
  | contextPattern pattern name validator =>
    exact ⟨rfl, spared_setContext (.record true .empty) rfl
      (ContextOverride.erase_fields_insertPattern ..)⟩

/-- A context under a name cannot be made one under a pattern. -/
theorem after_contextPattern_of_direct {o : Overrides} {pattern : String}
    {fields : OrderedMap String FieldOverride}
    (found : o.contexts.get? pattern = some (.direct fields)) (name validator : String) :
    o.after (.contextPattern pattern name validator) = o := by
  rw [after, contextPattern, found, Option.getD_some, ContextOverride.insertPattern,
    OrderedMap.insert_eq_self found]

/-- A table has the rule for a pattern exactly unless the pattern was taken for a name. -/
theorem added_contextPattern_iff (o : Overrides) (pattern name validator : String) :
    (Call.contextPattern pattern name validator).Added
        (o.after (.contextPattern pattern name validator)).table ↔
      ∀ fields, o.contexts.get? pattern ≠ some (.direct fields) := by
  constructor
  · rintro ⟨entry, listed, marked, -⟩ fields found
    rw [after_contextPattern_of_direct found, filter_key_contexts, found] at listed
    obtain rfl := List.singleton_inj.mp listed
    cases marked
  · intro other
    obtain ⟨fields, kept⟩ : ∃ fields : OrderedMap String FieldOverride,
        ((o.contexts.get? pattern).getD (.record true .empty)).insertPattern name
          ⟨validator, none, false⟩
        = .record true (fields.insert name ⟨validator, none, false⟩) := by
      rcases found : o.contexts.get? pattern with _ | fields | ⟨mark, fields⟩
      · exact ⟨.empty, rfl⟩
      · exact absurd found (other fields)
      · exact ⟨fields, rfl⟩
    refine ⟨_, filter_key_setContext _, ?_⟩
    rw [kept]
    refine ⟨rfl, ?_⟩
    rw [filter_contextEntry_fields, ContextOverride.fields, OrderedMap.get?_insert_self]
    rfl

/-- Every other call adds its rule. -/
theorem added_after (o : Overrides) {call : Call}
    (other : ∀ pattern name validator, call ≠ .contextPattern pattern name validator) :
    call.Added (o.after call).table := by
  cases call with
  | field name validator => exact filter_key_setField _
  | fieldPattern pattern validator => exact filter_key_setField _
  | contextField context name validator =>
    refine ⟨_, filter_key_setContext _, ?_⟩
    rw [filter_contextEntry_fields, ContextOverride.fields_insert, OrderedMap.get?_insert_self]
    rfl
  | contextPattern pattern name validator => exact absurd rfl (other pattern name validator)

/-! ### What a call does after others -/

theorem Opened.direct_iff {o : Overrides} {key : String} {mark : Option Bool}
    (opened : o.Opened key mark) :
    (∃ fields, o.contexts.get? key = some (.direct fields)) ↔ mark = some false := by
  rcases mark with _ | _ | _
  · have absent : o.contexts.get? key = none := opened
    simp [absent]
  · exact iff_of_true opened rfl
  · obtain ⟨fields, found⟩ := opened
    simp [found]

/-- After any calls, one more call adds its rule to the table exactly unless it is about a pattern
that was taken for the name of a context first.  Such a call does nothing.  All entries under other
keys stay as they are, in their order, and so do the rules for other fields of the context. -/
theorem build_added_iff (calls : List Call) (call : Call) :
    (call.Added (build (calls ++ [call])).table ↔ ¬ call.isLost calls) ∧
      (call.isLost calls → build (calls ++ [call]) = build calls) ∧
      call.Spared (build calls).table (build (calls ++ [call])).table := by
  have step : build (calls ++ [call]) = (build calls).after call := List.foldl_concat ..
  rw [step, ← and_assoc]
  refine ⟨?_, spared_after _ call⟩
  cases call with
  | field name validator => exact ⟨iff_of_true (added_after _ nofun) nofun, nofun⟩
  | fieldPattern pattern validator => exact ⟨iff_of_true (added_after _ nofun) nofun, nofun⟩
  | contextField context name validator => exact ⟨iff_of_true (added_after _ nofun) nofun, nofun⟩
  | contextPattern pattern name validator =>
    have direct : (∃ fields, (build calls).contexts.get? pattern = some (.direct fields)) ↔
        (Call.contextPattern pattern name validator).isLost calls :=
      (opened_build calls pattern).direct_iff.trans decide_eq_true_iff.symm
    constructor
    · rw [added_contextPattern_iff, ← direct, not_exists]
    · intro lost
      obtain ⟨fields, found⟩ := direct.mpr lost
      exact after_contextPattern_of_direct found name validator

/-- A rule for the contexts that match `User` is lost after one for the context of that name. -/
theorem contextPattern_lost : ¬ (Call.contextPattern "User" "name" "N").Added
    (build [.contextField "User" "email" "E", .contextPattern "User" "name" "N"]).table := by
  rintro ⟨entry, listed, marked, -⟩
  have named : ((build [.contextField "User" "email" "E", .contextPattern "User" "name" "N"]).table
      |>.contexts.filter (·.key = "User")).all (!·.pattern) := by decide
  rw [listed] at named
  simp [marked] at named

end Overrides

end Schemata
