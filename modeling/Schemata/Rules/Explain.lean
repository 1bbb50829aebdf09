import Schemata.Rules.Resolve

/-!
# Explanations

An explanation lists every rule that could apply to a field, and marks the one that does.

## Main definitions

* `RuleSet.explain` : the explanation for a field.
* `Explanation.toText` : the explanation as text.
* `Explanation.toJson` : the explanation as a JSON value.
-/

namespace Schemata

/-- A rule that could apply, with a mark if it does. -/
structure ExplainedCandidate where
  source : RuleSource
  outcome : Outcome
  expression : Option String
  message : Option String
  selected : Bool
deriving DecidableEq, Repr

/-- All rules that could apply to a field. -/
structure Explanation where
  field : String
  context : Option String
  candidates : List ExplainedCandidate
  winner : RuleSource
deriving DecidableEq, Repr

/-- A candidate with its mark. -/
def Candidate.explained (c : Candidate) (selected : Bool) : ExplainedCandidate :=
  ⟨c.source, c.outcome, c.rule.map Rule.expression, c.rule.bind Rule.message, selected⟩

/-- Marks the first candidate that matches; `found` tells that it lies before. -/
def markFirst (found : Bool) : List Candidate → List ExplainedCandidate
  | [] => []
  | c :: rest => c.explained (!found && c.isMatched) :: markFirst (found || c.isMatched) rest

/-- Explains which rule applies to a field. -/
def RuleSet.explain (rules : RuleSet) (field : String) (context : Option String) : Explanation :=
  let candidates := rules.candidates field context
  { field := field
    context := context
    candidates := markFirst false candidates
    winner := ((candidates.find? (·.isMatched)).map Candidate.source).getD .default }

/-- The name of an outcome in data formats. -/
def Outcome.name : Outcome → String
  | .matched => "matched"
  | .keyMismatch => "key-mismatch"
  | .fieldNotListed => "field-not-listed"
  | .invalidPattern => "invalid-pattern"

namespace ExplainedCandidate

/-- What became of the candidate, in words. -/
def verdict (c : ExplainedCandidate) : String :=
  match c.outcome with
  | .matched => if c.selected then "matched" else "shadowed"
  | .keyMismatch => "no match"
  | .fieldNotListed => "field not listed"
  | .invalidPattern => "invalid pattern"

/-- The candidate as a line of text. -/
def toText (c : ExplainedCandidate) : String :=
  let mark := if c.selected then "*" else " "
  let expression := match c.expression with
    | some text => s!" => {text}"
    | none => ""
  s!"{mark} {c.source.toText} ({c.verdict}){expression}\n"

end ExplainedCandidate

/-- The source as a JSON value: its tier, and what it is found under. -/
def RuleSource.toJson : RuleSource → Json
  | .contextExact context field =>
    .object [("tier", .string "context-exact"),
      ("key", .object [("context", .string context), ("field", .string field)])]
  | .contextPattern pattern field =>
    .object [("tier", .string "context-pattern"),
      ("key", .object [("pattern", .string pattern), ("field", .string field)])]
  | .fieldExact key => .object [("tier", .string "field-exact"), ("key", .string key)]
  | .fieldPattern pattern => .object [("tier", .string "field-pattern"), ("key", .string pattern)]
  | .default => .object [("tier", .string "default")]

namespace Explanation

/-- The candidate that applies. -/
def selected? (e : Explanation) : Option ExplainedCandidate :=
  e.candidates.find? (·.selected)

/-- The explanation as text. -/
def toText (e : Explanation) : String :=
  let head := match e.context with
    | some context => s!"{context}.{e.field}\n"
    | none => s!"{e.field}\n"
  head ++ String.join (e.candidates.map ExplainedCandidate.toText)
    ++ s!"resolved by: {e.winner.toText}"

/-- A text or null. -/
def textOrNull : Option String → Json
  | some text => .string text
  | none => .null

/-- A candidate as a JSON value. -/
def candidateJson (c : ExplainedCandidate) : Json :=
  .object [("source", c.source.toJson), ("outcome", .string c.outcome.name),
    ("expression", textOrNull c.expression), ("message", textOrNull c.message),
    ("selected", .bool c.selected)]

/-- The explanation as a JSON value. -/
def toJson (e : Explanation) : Json :=
  .object [("field", .string e.field), ("context", textOrNull e.context),
    ("candidates", .array (e.candidates.map candidateJson)), ("winner", e.winner.toJson)]

end Explanation

end Schemata
