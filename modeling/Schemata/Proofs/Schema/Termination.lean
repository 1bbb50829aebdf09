import Schemata.Proofs.Schema.Locality

/-!
# Generation ends

A graph may hold anything: anonymous shapes that contain themselves, ids without a shape, chains of
references that come back to their start.  Generation ends all the same.  A walk opens a shape only
if it is not open already, so its calls are nested no deeper than there are shapes, and following
references stops where it would see an id twice.

That a computation goes no deeper is said by a copy of it that hands over to somebody else below a
given depth: the answer does not depend on what is answered there.

## Main definitions

* `Generator.visitWithin`, `Generator.generateWithin` : generation with calls of bounded depth.
* `Generator.fieldsWithin` : references followed for a bounded number of rounds.

## Main results

* `Generator.visitWithin_eq` : a walk goes no deeper than there are shapes to open.
* `Generator.fieldsWithin_eq` : references are followed no longer than there are shapes.
* `Generator.generate_ends` : generation ends, and fails on nothing but ids without declaration.
-/

namespace Schemata

namespace Generator

variable (gen : Generator)

/-- The validator of an id, where calls below a depth are answered by `beyond`. -/
def visitWithin (beyond : Place → ShapeId → Traced Validator) :
    Nat → List ShapeId → Place → ShapeId → Traced Validator
  | 0, _, place, id => beyond place id
  | depth + 1, opened, place, id =>
    match gen.graph.declaration? id with
    | some declaration => gen.named (opened.contains ·) place id declaration []
    | none =>
      match gen.graph.shape? id with
      | none => gen.fallback place (.missingShape id)
      | some shape =>
        if id ∈ opened then gen.fallback place (.anonymousRecursion id)
        else do
          .note (.visited id)
          visitShape gen (visitWithin beyond depth (id :: opened)) ((id :: opened).contains ·)
            place shape

/-- The validator of a declaration, where calls below a depth are answered by `beyond`. -/
def visitDeclarationWithin (beyond : Place → ShapeId → Traced Validator) (depth : Nat)
    (id : ShapeId) (declaration : Declaration) : Traced Validator :=
  let opened := [declaration.id]
  let place := Place.top declaration
  match gen.graph.shape? id with
  | none => gen.fallback place (.missingShape id)
  | some shape => do
    .note (.visited id)
    visitShape gen (gen.visitWithin beyond depth opened) (opened.contains ·) place shape

/-- The schema of a declaration, where calls below a depth are answered by `beyond`. -/
def generateWithin (beyond : Place → ShapeId → Traced Validator) (depth : Nat) (id : ShapeId) :
    Except GenerationError (Schema × GeneratorStats) :=
  match gen.graph.declaration? id with
  | none => .error (.notADeclaration id)
  | some declaration =>
    let traced := gen.visitDeclarationWithin beyond depth id declaration
    .ok (gen.schemaOf id declaration traced, statsOf traced.findings)

/-- The fields of the object type that an id denotes; `seen` lists the references that have been
followed, and what is left after some rounds is answered by `beyond`. -/
def fieldsWithin (beyond : Option (List Field)) :
    Nat → List ShapeId → ShapeId → Option (List Field)
  | 0, _, _ => beyond
  | rounds + 1, seen, id =>
    if id ∈ seen then none
    else match gen.graph.shape? id with
      | some (.object fields) => some fields
      | some (.reference target _) => fieldsWithin beyond rounds (id :: seen) target
      | _ => none

theorem unopened_le (opened : List ShapeId) :
    gen.unopened opened ≤ gen.graph.shapes.entries.length :=
  List.length_filter_le _ _

variable {gen}

/-- A walk goes no deeper than there are shapes to open. -/
theorem visitWithin_eq (beyond : Place → ShapeId → Traced Validator) {depth : Nat}
    {opened : List ShapeId} (deep : gen.unopened opened < depth) (place : Place) (id : ShapeId) :
    gen.visitWithin beyond depth opened place id = gen.visit opened place id := by
  induction depth generalizing opened place id with
  | zero => cases deep
  | succ depth ih =>
    rw [visitWithin]
    cases declared : gen.graph.declaration? id with
    | some declaration => rw [visit, declared]
    | none =>
      cases found : gen.graph.shape? id with
      | none => rw [visit_of_missing declared found]
      | some shape =>
        rw [visit_of_anonymous declared found]
        dsimp only
        split
        · rfl
        · rename_i fresh
          -- The shape is opened now, so one less is left for the calls inside.
          have less : gen.unopened (id :: opened) < depth :=
            Nat.lt_of_lt_of_le (unopened_cons_lt found fresh) (Nat.le_of_lt_succ deep)
          have inner : gen.visitWithin beyond depth (id :: opened) = gen.visit (id :: opened) :=
            funext fun place => funext fun next => ih less place next
          rw [inner]

theorem visitDeclarationWithin_eq (beyond : Place → ShapeId → Traced Validator) {depth : Nat}
    (deep : gen.graph.shapes.entries.length < depth) (id : ShapeId) (declaration : Declaration) :
    gen.visitDeclarationWithin beyond depth id declaration
      = gen.visitDeclaration id declaration := by
  have inner : gen.visitWithin beyond depth [declaration.id] = gen.visit [declaration.id] :=
    funext fun place => funext fun next =>
      visitWithin_eq beyond (Nat.lt_of_le_of_lt (gen.unopened_le _) deep) place next
  unfold visitDeclarationWithin visitDeclaration
  cases gen.graph.shape? id with
  | none => rfl
  | some shape =>
    dsimp only
    rw [inner]

theorem generateWithin_eq (beyond : Place → ShapeId → Traced Validator) {depth : Nat}
    (deep : gen.graph.shapes.entries.length < depth) (id : ShapeId) :
    gen.generateWithin beyond depth id = gen.generate id := by
  unfold generateWithin generate
  cases gen.graph.declaration? id with
  | none => rfl
  | some declaration =>
    dsimp only
    rw [visitDeclarationWithin_eq beyond deep]

/-- References are followed no longer than there are shapes that have not been seen. -/
theorem fieldsWithin_eq_visit (beyond : Option (List Field)) {rounds : Nat} {seen : List ShapeId}
    (long : gen.unopened seen < rounds)
    (followed : ∀ id ∈ seen, ∃ target args, gen.graph.shape? id = some (.reference target args))
    (id : ShapeId) :
    gen.fieldsWithin beyond rounds seen id =
      match ((Walk.visit gen.aliasEdges [id] seen.reverse).getLast?).bind gen.graph.shape? with
      | some (.object fields) => some fields
      | _ => none := by
  induction rounds generalizing seen id with
  | zero => cases long
  | succ rounds ih =>
    rw [fieldsWithin, Walk.visit]
    by_cases old : id ∈ seen
    · -- The walk ends at one of the references that have been followed.
      rw [if_pos old, if_pos (List.mem_reverse.mpr old), Walk.visit, List.getLast?_reverse]
      obtain ⟨last, rest, rfl⟩ := List.exists_cons_of_ne_nil (List.ne_nil_of_mem old)
      obtain ⟨target, args, found⟩ := followed last List.mem_cons_self
      simp [found]
    · rw [if_neg old, if_neg (mt List.mem_reverse.mp old), successors_aliasEdges]
      cases found : gen.graph.shape? id with
      | none => simp [Walk.visit, found]
      | some shape =>
        cases shape with
        | reference target args =>
          have less : gen.unopened (id :: seen) < rounds :=
            Nat.lt_of_lt_of_le (unopened_cons_lt found old) (Nat.le_of_lt_succ long)
          have next := ih less (List.forall_mem_cons.mpr ⟨⟨target, args, found⟩, followed⟩) target
          rw [List.reverse_cons] at next
          exact next
        | _ => simp [Walk.visit, found, plainTarget?]

theorem fieldsWithin_eq (beyond : Option (List Field)) {rounds : Nat}
    (long : gen.graph.shapes.entries.length < rounds) (id : ShapeId) :
    gen.fieldsWithin beyond rounds [] id = gen.objectFields? id :=
  fieldsWithin_eq_visit beyond (Nat.lt_of_le_of_lt (gen.unopened_le []) long) nofun id

/-- Whatever steps a graph is made by, the generation of an id ends: with a schema if the id has
been declared, and with an error that says so if it has not.  Calls are nested no deeper, and
references are followed no longer, than there are shapes. -/
theorem generate_ends (steps : List ShapeGraph.Step) (rules : RuleSet) (options : GenerateOptions)
    (id : ShapeId) :
    ((∃ step ∈ steps, step.Declares id) →
      ∃ schema stats, (new (.build steps) rules options).generate id = .ok (schema, stats)) ∧
    (∀ error, (new (.build steps) rules options).generate id = .error error →
      error = .notADeclaration id ∧ ¬ ∃ step ∈ steps, step.Declares id) ∧
    ∀ limit > (ShapeGraph.build steps).shapes.entries.length,
      (∀ beyond, (new (.build steps) rules options).generateWithin beyond limit id
        = (new (.build steps) rules options).generate id) ∧
      ∀ beyond source, (new (.build steps) rules options).fieldsWithin beyond limit [] source
        = (new (.build steps) rules options).objectFields? source := by
  have declared_iff : (∃ step ∈ steps, step.Declares id) ↔
      ((ShapeGraph.build steps).declaration? id).isSome := by
    rw [← ShapeGraph.isDeclared_build, ShapeGraph.isDeclared_eq_isSome]
  refine ⟨fun declared => ?_, fun error failed => ?_, fun limit large => ⟨?_, ?_⟩⟩
  · obtain ⟨d, found⟩ := Option.isSome_iff_exists.mp (declared_iff.mp declared)
    exact ⟨_, _, generate_eq_ok found⟩
  · obtain ⟨absent, rfl⟩ := generate_eq_error_iff.mp failed
    have none : (ShapeGraph.build steps).declaration? id = none := absent
    exact ⟨rfl, by simp [declared_iff, none]⟩
  · exact fun beyond => generateWithin_eq beyond large id
  · exact fun beyond source => fieldsWithin_eq beyond large source

/-- A declaration with an anonymous type that contains itself, an id without a shape, and the keys
of two references to each other. -/
def loops : List ShapeGraph.Step := [
  .declare "loop.ts" "Loop" .interface true,
  .define (ShapeId.declaration "loop.ts" "Loop") (.object [
    ⟨"self", ⟨1⟩, false, false⟩, ⟨"gone", ⟨2⟩, true, false⟩, ⟨"keys", ⟨3⟩, false, false⟩]),
  .define ⟨1⟩ (.array ⟨1⟩),
  .define ⟨3⟩ (.mapped ⟨4⟩ (.perKey "Maybe" .nullable)),
  .define ⟨4⟩ (.reference ⟨5⟩ []),
  .define ⟨5⟩ (.reference ⟨4⟩ [])]

theorem generate_ends_loops :
    (∃ step ∈ loops, step.Declares (ShapeId.declaration "loop.ts" "Loop")) ∧
      (∃ schema stats, (new (.build loops) .empty {}).generate
        (ShapeId.declaration "loop.ts" "Loop") = .ok (schema, stats)) ∧
      ∃ limit > (ShapeGraph.build loops).shapes.entries.length,
        (∀ beyond, (new (.build loops) .empty {}).generateWithin beyond limit
            (ShapeId.declaration "loop.ts" "Loop")
          = (new (.build loops) .empty {}).generate (ShapeId.declaration "loop.ts" "Loop")) ∧
        ∀ beyond source, (new (.build loops) .empty {}).fieldsWithin beyond limit [] source
          = (new (.build loops) .empty {}).objectFields? source :=
  have declared : ∃ step ∈ loops, step.Declares (ShapeId.declaration "loop.ts" "Loop") :=
    ⟨_, List.mem_cons_self, Eq.refl (ShapeId.declaration "loop.ts" "Loop")⟩
  have ends := generate_ends loops .empty {} (ShapeId.declaration "loop.ts" "Loop")
  have larger := Nat.lt_succ_self (ShapeGraph.build loops).shapes.entries.length
  ⟨declared, ends.1 declared, _, larger, ends.2.2 _ larger⟩

end Generator

end Schemata
