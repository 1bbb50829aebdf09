import Schemata.Schema.Basic

/-!
# Findings

While a type is turned into a validator, the walk notes what it meets.  All that a schema tells
besides its validator is read off these findings.

## Main definitions

* `Finding` : one note.
* `Traced` : a value with the findings on the way to it, in order.
-/

namespace Schemata

/-- Something met on the way through a type. -/
inductive Finding
  | visited (id : ShapeId)
  | reference (target : ShapeId) (deferred : Bool)
  | field (source : FieldSource)
  | member (signature : MemberSignature)
  | fallback (diagnostic : Diagnostic)

namespace Finding

/-- The target of a reference. -/
def target? : Finding → Option ShapeId
  | reference target _ => some target
  | _ => none

/-- The source of the validator of a field. -/
def fieldSource? : Finding → Option FieldSource
  | field source => some source
  | _ => none

/-- The signature of a member. -/
def signature? : Finding → Option MemberSignature
  | member signature => some signature
  | _ => none

/-- The report on a place without a validator of its own. -/
def diagnostic? : Finding → Option Diagnostic
  | fallback diagnostic => some diagnostic
  | _ => none

/-- Was a shape visited? -/
def isVisit : Finding → Bool
  | visited _ => true
  | _ => false

/-- Was a reference deferred? -/
def isDeferred : Finding → Bool
  | reference _ deferred => deferred
  | _ => false

end Finding

/-- A value with the findings on the way to it. -/
structure Traced (α : Type) where
  value : α
  findings : List Finding

namespace Traced

/-- A value without findings. -/
def pure {α : Type} (value : α) : Traced α :=
  ⟨value, []⟩

/-- Goes on with a value; later findings come after earlier ones. -/
def bind {α β : Type} (t : Traced α) (f : α → Traced β) : Traced β :=
  let next := f t.value
  ⟨next.value, t.findings ++ next.findings⟩

instance : Monad Traced where
  pure := Traced.pure
  bind := Traced.bind

/-- Notes a finding. -/
def note (finding : Finding) : Traced Unit :=
  ⟨(), [finding]⟩

/-- Goes through a list from left to right. -/
def forEach {α β : Type} (f : α → Traced β) : List α → Traced (List β)
  | [] => pure []
  | a :: rest => do
    let b ← f a
    let bs ← forEach f rest
    return b :: bs

end Traced

end Schemata
