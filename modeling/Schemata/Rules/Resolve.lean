import Schemata.Rules.Set
import Schemata.Validator.Basic

/-!
# Resolution

Of all rules that could apply to a field, the first one that matches replaces its validator.
Contexts come before fields, and exact keys before patterns.

## Main definitions

* `RuleSet.candidates` : the rules that could apply, in order, with what became of each.
* `RuleSet.resolve` : the validator of a field under the rules.
-/

namespace Schemata

/-- The four places in which a rule is sought, in order. -/
inductive Tier
  | contextExact
  | contextPattern
  | fieldExact
  | fieldPattern
deriving DecidableEq, Repr

namespace Tier

/-- The name of a tier. -/
def name : Tier → String
  | contextExact => "context-exact"
  | contextPattern => "context-pattern"
  | fieldExact => "field-exact"
  | fieldPattern => "field-pattern"

/-- The place of a tier in the order. -/
def rank : Tier → Nat
  | contextExact => 0
  | contextPattern => 1
  | fieldExact => 2
  | fieldPattern => 3

end Tier

/-- Where a validator comes from. -/
inductive RuleSource
  | contextExact (context field : String)
  | contextPattern (pattern field : String)
  | fieldExact (key : String)
  | fieldPattern (pattern : String)
  | default
deriving DecidableEq, Repr

namespace RuleSource

/-- The tier of a rule; no rule, no tier. -/
def tier? : RuleSource → Option Tier
  | contextExact _ _ => some .contextExact
  | contextPattern _ _ => some .contextPattern
  | fieldExact _ => some .fieldExact
  | fieldPattern _ => some .fieldPattern
  | default => none

/-- Is there no rule? -/
def isDefault : RuleSource → Bool
  | default => true
  | _ => false

/-- The source as text. -/
def toText : RuleSource → String
  | contextExact context field => s!"context-exact:{context}.{field}"
  | contextPattern pattern field => s!"context-pattern:/{pattern}/.{field}"
  | fieldExact key => s!"field-exact:{key}"
  | fieldPattern pattern => s!"field-pattern:/{pattern}/"
  | default => "default"

end RuleSource

/-- What became of a rule that could apply. -/
inductive Outcome
  | matched
  /-- The name of the context or the field is another one. -/
  | keyMismatch
  /-- The context is right and has no rule for the field. -/
  | fieldNotListed
  /-- The key is no pattern. -/
  | invalidPattern
deriving DecidableEq, Repr

/-- A rule that could apply. -/
structure Candidate where
  source : RuleSource
  outcome : Outcome
  rule : Option Rule
deriving DecidableEq, Repr

namespace Candidate

/-- Does the rule apply? -/
def isMatched (c : Candidate) : Bool :=
  c.outcome = .matched

/-- A rule found under a key that is right, or none. -/
def ofRule? (source : RuleSource) : Option Rule → Candidate
  | some rule => ⟨source, .matched, some rule⟩
  | none => ⟨source, .fieldNotListed, none⟩

/-- A rule under a pattern, which is looked up only if the pattern matches `name`. -/
def ofPattern (source : RuleSource) (key : KeyPattern) (name : String) (found : Candidate) :
    Candidate :=
  match key.pattern? with
  | none => ⟨source, .invalidPattern, none⟩
  | some pattern => if pattern.isMatch name then found else ⟨source, .keyMismatch, none⟩

end Candidate

/-- A validator and where it comes from. -/
structure Resolution where
  validator : Validator
  source : RuleSource
  message : Option String

namespace RuleSet

/-- The rules under the exact name of the context. -/
def contextExactCandidates (rules : RuleSet) (field context : String) : List Candidate :=
  match rules.contextExact.get? context with
  | none => []
  | some fields => [.ofRule? (.contextExact context field) (fields.get? field)]

/-- The rules under patterns over contexts. -/
def contextPatternCandidates (rules : RuleSet) (field context : String) : List Candidate :=
  rules.contextPatterns.map fun (key, fields) =>
    let source := .contextPattern key.source field
    .ofPattern source key context (.ofRule? source (fields.get? field))

/-- The rules under the exact name of the field. -/
def fieldExactCandidates (rules : RuleSet) (field : String) : List Candidate :=
  match rules.fieldExact.get? field with
  | none => []
  | some rule => [⟨.fieldExact field, .matched, some rule⟩]

/-- The rules under patterns over fields. -/
def fieldPatternCandidates (rules : RuleSet) (field : String) : List Candidate :=
  rules.fieldPatterns.map fun (key, rule) =>
    let source := .fieldPattern key.source
    .ofPattern source key field ⟨source, .matched, some rule⟩

/-- All rules that could apply to a field, in order. -/
def candidates (rules : RuleSet) (field : String) (context : Option String) : List Candidate :=
  (match context with
    | none => []
    | some context =>
      rules.contextExactCandidates field context ++ rules.contextPatternCandidates field context)
    ++ rules.fieldExactCandidates field ++ rules.fieldPatternCandidates field

/-- The rule that applies to a field, with its source. -/
def winner? (rules : RuleSet) (field : String) (context : Option String) :
    Option (RuleSource × Rule) :=
  ((rules.candidates field context).find? (·.isMatched)).bind fun c =>
    c.rule.map fun rule => (c.source, rule)

/-- The validator of a rule put in place of `base`. -/
def applyRule (rule : Rule) (base : Validator) : Validator :=
  let validator := Validator.expression rule.expression base
  match rule.message with
  | some message => validator.modify (.message message)
  | none => validator

/-- The validator of a field under the rules; without a rule it is `base`. -/
def resolve (rules : RuleSet) (field : String) (base : Validator) (context : Option String) :
    Resolution :=
  match rules.winner? field context with
  | some (source, rule) => ⟨applyRule rule base, source, rule.message⟩
  | none => ⟨base, .default, none⟩

end RuleSet

end Schemata
