import Mathlib.Data.List.Forall2
import Schemata.Proofs.Schema.Findings

/-!
# What rules and options do not steer

Rules replace the validators of fields, and strictness sets the level of reports.  Neither has a say
in where a walk goes: the validator that a rule replaces was made before, with all that is noted on
the way.  So two walks through the same graph note the same things in the same order, up to sources,
levels, and the validators in signatures.

## Main definitions

* `Generator.steer` : the same generator with other rules and options.
* `Finding.Alike`, `Traced.Alike` : findings and walks that differ as rules and levels differ.
* `Schema.Alike` : what two schemas of a declaration have in common.

## Main results

* `Generator.steered_visitDeclaration` : two walks through a declaration are alike.
* `Generator.generate_steered` : two generators of a graph give every declaration schemas that are
  alike, at the same cost.
-/

namespace Schemata

/-- The level of reports. -/
def GenerateOptions.level (options : GenerateOptions) : DiagnosticLevel :=
  if options.strict then .error else .warning

/-- Findings of two walks.  If `same`, the rules are the same. -/
inductive Finding.Alike (same : Prop) (level level' : DiagnosticLevel) : Finding → Finding → Prop
  | visited (id : ShapeId) : Alike same level level' (.visited id) (.visited id)
  | reference (target : ShapeId) (deferred : Bool) :
      Alike same level level' (.reference target deferred) (.reference target deferred)
  | field (path : String) {source source' : String} (equal : same → source = source') :
      Alike same level level' (.field ⟨path, source⟩) (.field ⟨path, source'⟩)
  | member (path : String) (kind : FunctionKind) {params params' returns returns' : Validator}
      (equal : same → params = params' ∧ returns = returns') :
      Alike same level level' (.member ⟨path, kind, params, returns⟩)
        (.member ⟨path, kind, params', returns'⟩)
  | fallback (kind : DiagnosticKind) (message : String) (context : Option String) :
      Alike same level level' (.fallback ⟨kind, level, message, context⟩)
        (.fallback ⟨kind, level', message, context⟩)

namespace Traced

variable {α β : Type} {same : Prop} {level level' : DiagnosticLevel}

/-- Two walks that note the same things; with the same rules they come to the same value. -/
structure Alike (same : Prop) (level level' : DiagnosticLevel) (t t' : Traced α) : Prop where
  value : same → t.value = t'.value
  findings : List.Forall₂ (Finding.Alike same level level') t.findings t'.findings

theorem alike_pure {a a' : α} (h : same → a = a') :
    Alike same level level' (Pure.pure a) (Pure.pure a') :=
  ⟨h, .nil⟩

theorem Alike.bind {t t' : Traced α} {f f' : α → Traced β} (ht : t.Alike same level level' t')
    (hf : ∀ a a', (same → a = a') → (f a).Alike same level level' (f' a')) :
    (t >>= f).Alike same level level' (t' >>= f') :=
  have next := hf t.value t'.value ht.value
  ⟨next.value, List.rel_append ht.findings next.findings⟩

theorem alike_note {finding finding' : Finding}
    (h : finding.Alike same level level' finding') :
    (note finding).Alike same level level' (note finding') :=
  ⟨fun _ => rfl, .cons h .nil⟩

theorem alike_forEach {f f' : α → Traced β} (h : ∀ a, (f a).Alike same level level' (f' a))
    (items : List α) : (forEach f items).Alike same level level' (forEach f' items) := by
  induction items with
  | nil => exact alike_pure fun _ => rfl
  | cons a rest ih =>
    refine (h a).bind fun b b' hb => ih.bind fun bs bs' hbs => alike_pure fun rules => ?_
    rw [hb rules, hbs rules]

/-- A walk followed by a change of its value. -/
theorem Alike.map {t t' : Traced α} (ht : t.Alike same level level' t') (f : α → β) :
    (t >>= fun a => Pure.pure (f a)).Alike same level level'
      (t' >>= fun a => Pure.pure (f a)) :=
  ht.bind fun _ _ h => alike_pure fun rules => congrArg f (h rules)

end Traced

namespace Generator

open Traced

variable (gen : Generator) (rules : RuleSet) (options : GenerateOptions)

/-- The same generator with other rules and options. -/
def steer : Generator :=
  { gen with rules := rules, options := options }

theorem graph_steer : (gen.steer rules options).graph = gen.graph :=
  rfl

/-- Walks of the generator and of the one with other rules and options. -/
abbrev Steered {α : Type} (t t' : Traced α) : Prop :=
  t.Alike (gen.rules = rules) gen.options.level options.level t'

variable {gen rules options} {visit visit' : Place → ShapeId → Traced Validator}
  {inProgress : ShapeId → Bool} {place : Place}

theorem steered_fallback (error : GenerationError) :
    gen.Steered rules options (gen.fallback place error)
      ((gen.steer rules options).fallback place error) :=
  (alike_note (.fallback .generation error.message (some place.location))).bind
    fun _ _ _ => alike_pure fun _ => rfl

theorem steered_named (target : ShapeId) (declaration : Declaration) {args args' : List Validator}
    (hargs : gen.rules = rules → args = args') :
    gen.Steered rules options (gen.named inProgress place target declaration args)
      ((gen.steer rules options).named inProgress place target declaration args') := by
  refine (alike_note (.reference target _)).bind fun _ _ _ => alike_pure fun same => ?_
  rw [hargs same]
  rfl

/-- A rule is looked up after the validator that it replaces was made. -/
theorem steered_resolveField (name : String) {base base' : Validator}
    (hbase : gen.rules = rules → base = base') :
    gen.Steered rules options (resolveField gen place name base)
      (resolveField (gen.steer rules options) place name base') := by
  have equal (same : gen.rules = rules) :
      gen.rules.resolve name base (some place.declaration.name)
        = rules.resolve name base' (some place.declaration.name) := by
    rw [same, hbase same]
  refine (alike_note (.field place.fieldPath fun same => ?_)).bind
    fun _ _ _ => alike_pure fun same => ?_
  · rw [equal same]
    rfl
  · rw [equal same]
    rfl

section Shape

variable (visits : ∀ place id, gen.Steered rules options (visit place id) (visit' place id))

include visits

theorem steered_reference (target : ShapeId) (args : List ShapeId) :
    gen.Steered rules options (reference gen visit inProgress place target args)
      (reference (gen.steer rules options) visit' inProgress place target args) := by
  unfold reference
  rw [graph_steer]
  cases gen.graph.declaration? target with
  | none => exact visits place target
  | some declaration =>
    exact (alike_forEach (visits place) args).bind fun _ _ => steered_named target declaration

theorem steered_visitParams (params : List Param) :
    gen.Steered rules options (visitParams visit place params)
      (visitParams visit' place params) := by
  refine alike_forEach (fun p => ?_) params
  exact (visits place p.type).map fun v => if p.optional then v.optional else v

theorem steered_visitEntry (field : Field) {adapt adapt' : Validator → Traced Validator}
    (adapts : ∀ v v', (gen.rules = rules → v = v') →
      gen.Steered rules options (adapt v) (adapt' v')) :
    gen.Steered rules options (visitEntry gen visit place adapt field)
      (visitEntry (gen.steer rules options) visit' place adapt' field) := by
  refine (visits place field.type).bind fun base base' hbase => ?_
  refine (adapts base base' hbase).bind fun _ _ hadapted => ?_
  exact (steered_resolveField field.name hadapted).map fun validator =>
    (field.name, if field.optional then validator.optional else validator)

theorem steered_visitField (field : Field) :
    gen.Steered rules options (visitField gen visit place field)
      (visitField (gen.steer rules options) visit' place field) := by
  unfold visitField
  have method : (gen.steer rules options).method? field.type = gen.method? field.type := rfl
  rw [method]
  match gen.method? field.type with
  | some (kind, params, returns) =>
    refine (steered_visitParams visits params).bind fun vs vs' hparams => ?_
    refine (visits _ returns).bind fun v v' hreturns => ?_
    refine (alike_note (.member _ kind fun same => ?_)).bind fun _ _ _ => alike_pure fun _ => rfl
    rw [hparams same, hreturns same]
    exact ⟨rfl, rfl⟩
  | none => exact (steered_visitEntry visits field fun _ _ h => alike_pure h).map some

theorem steered_visitUnion (members : List ShapeId) :
    gen.Steered rules options (visitUnion gen visit place members)
      (visitUnion (gen.steer rules options) visit' place members) := by
  unfold visitUnion
  have isNull : (gen.steer rules options).isNull = gen.isNull := rfl
  have isUndefined : (gen.steer rules options).isUndefined = gen.isUndefined := rfl
  rw [isNull, isUndefined]
  dsimp only
  split
  · exact (alike_forEach (visits place) members).map Validator.union
  · exact (alike_forEach (visits place) _).map fun vs =>
      let v := if members.any gen.isNull then (Validator.union vs).nullable else Validator.union vs
      if members.any gen.isUndefined then v.optional else v

theorem steered_adaptKey (value : PerKey) {base base' : Validator}
    (hbase : gen.rules = rules → base = base') :
    gen.Steered rules options (adaptKey visit place value base)
      (adaptKey visit' place value base') := by
  cases value with
  | replace type => exact visits place type
  | _ => exact alike_pure fun same => by rw [hbase same]

theorem steered_visitPerKey (source : ShapeId) (name : String) (value : PerKey) :
    gen.Steered rules options (visitPerKey gen visit place source name value)
      (visitPerKey (gen.steer rules options) visit' place source name value) := by
  unfold visitPerKey
  have fields : (gen.steer rules options).objectFields? source = gen.objectFields? source := rfl
  rw [fields]
  cases gen.objectFields? source with
  | none => exact steered_fallback _
  | some fields =>
    have entries (field : Field) :
        gen.Steered rules options
          (visitEntry gen visit (place.inField field.name)
            (adaptKey visit (place.inField field.name) value) field)
          (visitEntry (gen.steer rules options) visit' (place.inField field.name)
            (adaptKey visit' (place.inField field.name) value) field) :=
      steered_visitEntry visits field fun _ _ => steered_adaptKey visits value
    exact (alike_forEach entries fields).map fun entries => Validator.ofKind (.object entries)

theorem steered_visitMapped (source : ShapeId) (transform : Transform) :
    gen.Steered rules options (visitMapped gen visit place source transform)
      (visitMapped (gen.steer rules options) visit' place source transform) := by
  cases transform with
  | record value =>
    refine (visits place source).bind fun key key' hkey => ?_
    refine (visits place value).bind fun v v' hv => alike_pure fun same => ?_
    rw [hkey same, hv same]
  | perKey name value => exact steered_visitPerKey visits source name value
  | _ => exact (visits place source).map _

/-- At every shape the two walks note the same, if they do so at the shapes in it. -/
theorem steered_visitShape (shape : Shape) :
    gen.Steered rules options (visitShape gen visit inProgress place shape)
      (visitShape (gen.steer rules options) visit' inProgress place shape) := by
  cases shape with
  | primitive type => exact alike_pure fun _ => rfl
  | literal value => exact alike_pure fun _ => rfl
  | array element => exact (visits place element).map _
  | tuple elements => exact (alike_forEach (visits place) elements).map _
  | object fields => exact (alike_forEach (steered_visitField visits) fields).map _
  | union members => exact steered_visitUnion visits members
  | intersection members => exact (alike_forEach (visits place) members).map _
  | generic params body => exact (visits (place.withParams params) body).map _
  | param name =>
    simp only [visitShape]
    split
    · exact alike_pure fun _ => rfl
    · exact steered_fallback _
  | mapped source transform => exact steered_visitMapped visits source transform
  | reference target args => exact steered_reference visits target args
  | function kind params returns =>
    refine (steered_visitParams visits params).bind fun vs vs' hparams => ?_
    refine (visits place returns).bind fun v v' hreturns => alike_pure fun same => ?_
    rw [hparams same, hreturns same]
  | refined base constraint => exact (visits place base).map _
  | unresolved name => exact steered_fallback _
  | unsupported text => exact steered_fallback _

end Shape

/-! ### Whole walks -/

theorem steered_visit (opened : List ShapeId) (place : Place) (id : ShapeId) :
    gen.Steered rules options (gen.visit opened place id)
      ((gen.steer rules options).visit opened place id) := by
  fun_induction gen.visit opened place id with
  | case1 opened place id declaration found =>
    rw [visit, graph_steer, found]
    exact steered_named id declaration fun _ => rfl
  | case2 opened place id found missing =>
    rw [← graph_steer gen rules options] at found missing
    rw [visit_of_missing found missing]
    exact steered_fallback _
  | case3 opened place id found shape hshape old =>
    rw [← graph_steer gen rules options] at found hshape
    rw [visit_of_anonymous found hshape, if_pos old]
    exact steered_fallback _
  | case4 opened place id found shape hshape new ih =>
    rw [← graph_steer gen rules options] at found hshape
    rw [visit_of_anonymous found hshape, if_neg new]
    exact (alike_note (.visited id)).bind fun _ _ _ => steered_visitShape ih shape

theorem steered_visitDeclaration (id : ShapeId) (declaration : Declaration) :
    gen.Steered rules options (gen.visitDeclaration id declaration)
      ((gen.steer rules options).visitDeclaration id declaration) := by
  unfold visitDeclaration
  rw [graph_steer]
  cases gen.graph.shape? id with
  | none => exact steered_fallback _
  | some shape =>
    exact (alike_note (.visited id)).bind fun _ _ _ =>
      steered_visitShape (steered_visit [declaration.id]) shape

end Generator

/-! ### Schemas -/

/-- What two schemas of a declaration have in common, with the levels of their reports. -/
structure Schema.Alike (level level' : DiagnosticLevel) (schema schema' : Schema) : Prop where
  dependencies : schema.dependencies = schema'.dependencies
  fieldPaths : schema.fieldSources.map FieldSource.path = schema'.fieldSources.map FieldSource.path
  memberKinds : schema.members.map (fun m => (m.member, m.kind))
    = schema'.members.map fun m => (m.member, m.kind)
  fingerprint : schema.fingerprint = schema'.fingerprint
  reports : schema.diagnostics.map (fun d => (d.kind, d.message, d.context))
    = schema'.diagnostics.map fun d => (d.kind, d.message, d.context)
  level_eq : ∀ d ∈ schema.diagnostics, d.level = level
  level_eq' : ∀ d ∈ schema'.diagnostics, d.level = level'

section Findings

variable {same : Prop} {level level' : DiagnosticLevel} {findings findings' : List Finding}
  (alike : List.Forall₂ (Finding.Alike same level level') findings findings')

include alike

/-- What alike findings have in common can be read off two walks. -/
theorem map_findings_eq {α : Type} {read read' : Finding → α}
    (h : ∀ f f', f.Alike same level level' f' → read f = read' f') :
    findings.map read = findings'.map read' := by
  rw [← List.forall₂_eq_eq_eq, List.forall₂_map_left_iff, List.forall₂_map_right_iff]
  exact alike.imp h

theorem filterMap_findings_eq {α : Type} {read read' : Finding → Option α}
    (h : ∀ f f', f.Alike same level level' f' → read f = read' f') :
    findings.filterMap read = findings'.filterMap read' := by
  have equal := congrArg (List.filterMap id) (map_findings_eq alike h)
  rwa [List.filterMap_map, List.filterMap_map] at equal

theorem countP_findings_eq {read : Finding → Bool}
    (h : ∀ f f', f.Alike same level level' f' → read f = read f') :
    findings.countP read = findings'.countP read := by
  have equal := congrArg (List.countP id) (map_findings_eq alike h)
  rwa [List.countP_map, List.countP_map] at equal

theorem level_findings : (∀ d ∈ findings.filterMap Finding.diagnostic?, d.level = level) ∧
    ∀ d ∈ findings'.filterMap Finding.diagnostic?, d.level = level' := by
  induction alike with
  | nil => simp
  | cons h _ ih => cases h <;> simpa [Finding.diagnostic?] using ih

/-- The reports on two walks are the same up to their levels. -/
theorem reports_findings :
    (findings.filterMap Finding.diagnostic?).map (fun d => (d.kind, d.message, d.context))
      = (findings'.filterMap Finding.diagnostic?).map fun d => (d.kind, d.message, d.context) := by
  rw [List.map_filterMap, List.map_filterMap]
  refine filterMap_findings_eq alike ?_
  rintro _ _ ⟨⟩ <;> rfl

end Findings

namespace Generator

theorem statsOf_eq {same : Prop} {level level' : DiagnosticLevel}
    {findings findings' : List Finding}
    (alike : List.Forall₂ (Finding.Alike same level level') findings findings') :
    statsOf findings = statsOf findings' := by
  have length := congrArg List.length (reports_findings alike)
  rw [List.length_map, List.length_map] at length
  unfold statsOf
  rw [length, countP_findings_eq alike, countP_findings_eq alike]
  · rintro _ _ ⟨⟩ <;> rfl
  · rintro _ _ ⟨⟩ <;> rfl

theorem alike_schemaOf {gen : Generator} {rules : RuleSet} {options : GenerateOptions}
    (id : ShapeId) (declaration : Declaration) {t t' : Traced Validator}
    (alike : gen.Steered rules options t t') :
    (gen.schemaOf id declaration t).Alike gen.options.level options.level
      ((gen.steer rules options).schemaOf id declaration t') where
  dependencies := by
    refine congrArg List.eraseDups (filterMap_findings_eq alike.findings ?_)
    rintro _ _ ⟨⟩ <;> rfl
  fieldPaths := by
    simp only [schemaOf, List.map_filterMap]
    refine filterMap_findings_eq alike.findings ?_
    rintro _ _ ⟨⟩ <;> rfl
  memberKinds := by
    simp only [schemaOf, List.map_filterMap]
    refine filterMap_findings_eq alike.findings ?_
    rintro _ _ ⟨⟩ <;> rfl
  fingerprint := rfl
  reports := reports_findings alike.findings
  level_eq := (level_findings alike.findings).1
  level_eq' := (level_findings alike.findings).2

/-- With the same rules, the signatures of members are the same. -/
theorem members_schemaOf {gen : Generator} {rules : RuleSet} {options : GenerateOptions}
    (id : ShapeId) (declaration : Declaration) {t t' : Traced Validator}
    (alike : gen.Steered rules options t t') (same : gen.rules = rules) :
    (gen.schemaOf id declaration t).members
      = ((gen.steer rules options).schemaOf id declaration t').members := by
  refine filterMap_findings_eq alike.findings ?_
  rintro _ _ (_ | _ | _ | ⟨path, kind, equal⟩ | _)
  case member =>
    obtain ⟨params, returns⟩ := equal same
    rw [params, returns]
  all_goals rfl

/-- Rules and options have no say in where a walk goes.  Two generators of one graph give every
declaration schemas with the same dependencies, fields, members and reports, at the same cost; the
reports are errors if the generator is strict and warnings if not.  If the rules are the same too,
then so are the validators. -/
theorem generate_steered (graph : ShapeGraph) (rules rules' : RuleSet)
    (options options' : GenerateOptions) {id : ShapeId} (declared : graph.isDeclared id) :
    ∃ schema schema' stats,
      (new graph rules options).generate id = .ok (schema, stats) ∧
      (new graph rules' options').generate id = .ok (schema', stats) ∧
      schema.Alike options.level options'.level schema' ∧
      (rules = rules' → schema.validator = schema'.validator ∧
        schema.members = schema'.members) := by
  rw [ShapeGraph.isDeclared_eq_isSome] at declared
  obtain ⟨declaration, found⟩ := Option.isSome_iff_exists.mp declared
  let gen := new graph rules options
  have alike : gen.Steered rules' options' (gen.visitDeclaration id declaration)
      ((gen.steer rules' options').visitDeclaration id declaration) :=
    steered_visitDeclaration id declaration
  refine ⟨_, _, _, generate_eq_ok found, ?_, alike_schemaOf id declaration alike, fun same =>
    ⟨alike.value same, members_schemaOf id declaration alike same⟩⟩
  have found' : (gen.steer rules' options').graph.declaration? id = some declaration := found
  rw [statsOf_eq alike.findings]
  exact generate_eq_ok found'

theorem generate_steered_ring :
    ring.isDeclared ⟨3⟩ ∧
      (∃ schema schema' stats,
        (new ring .empty {}).generate ⟨3⟩ = .ok (schema, stats) ∧
        (new ring (.ofTable ringRules) { strict := true }).generate ⟨3⟩ = .ok (schema', stats) ∧
        schema.Alike .warning .error schema') ∧
      ∃ schema schema' stats,
        (new ring (.ofTable ringRules) {}).generate ⟨3⟩ = .ok (schema, stats) ∧
        (new ring (.ofTable ringRules) { strict := true }).generate ⟨3⟩ = .ok (schema', stats) ∧
        schema.validator = schema'.validator ∧ schema.members = schema'.members := by
  have declared : ring.isDeclared ⟨3⟩ := rfl
  refine ⟨declared, ?_, ?_⟩
  · obtain ⟨schema, schema', stats, ok, ok', alike, -⟩ :=
      generate_steered ring .empty (.ofTable ringRules) {} { strict := true } declared
    exact ⟨schema, schema', stats, ok, ok', alike⟩
  · obtain ⟨schema, schema', stats, ok, ok', -, equal⟩ :=
      generate_steered ring (.ofTable ringRules) (.ofTable ringRules) {} { strict := true } declared
    exact ⟨schema, schema', stats, ok, ok', equal rfl⟩

end Generator

end Schemata
