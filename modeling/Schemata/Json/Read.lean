import Schemata.Json.Basic
import Schemata.Json.Outline

/-!
# Reading JSON texts

A reader goes through the outline of a text from left to right and says what it expects.  It
refuses the text at the first place that is faulty or has another shape.  Values are read with a
budget of 128 nested brackets, text and numbers are checked in full; members that nobody asked
for are skipped with less care.

## Main definitions

* `Json.Outline.value` : a value of any shape.
* `Json.Outline.text`, `Json.Outline.flag`, `Json.Outline.list` : values of one shape.
* `Json.Outline.record` : the fields of a record, by name or by place.
* `Json.readText` : a whole text.
-/

namespace Schemata.Json

/-! ### Strings -/

/-- Is the code the first half of a pair? -/
def isLead (n : Nat) : Bool :=
  0xD800 ≤ n && n ≤ 0xDBFF

/-- Is the code the second half of a pair? -/
def isTrail (n : Nat) : Bool :=
  0xDC00 ≤ n && n ≤ 0xDFFF

/-- The character of a pair of codes. -/
def pairedChar (lead trail : Nat) : Char :=
  Char.ofNat (0x10000 + (lead - 0xD800) * 0x400 + (trail - 0xDC00))

/-- The characters of a string; half a pair alone is refused. -/
def decodeUnits : List StringUnit → Option Refusal → Except Refusal (List Char)
  | [], none => .ok []
  | [], some fault => .error fault
  | .char c :: rest, fault => do
    let text ← decodeUnits rest fault
    return c :: text
  | .code n :: rest, fault =>
    if isTrail n then .error .malformed
    else if isLead n then
      match rest, fault with
      | .code m :: rest, fault =>
        if isTrail m then do
          let text ← decodeUnits rest fault
          return pairedChar n m :: text
        else .error .malformed
      | .char _ :: _, _ => .error .malformed
      | [], some fault => .error fault
      | [], none => .error .malformed
    else do
      let text ← decodeUnits rest fault
      return Char.ofNat n :: text

/-- The text of a string. -/
def StringLexeme.text (s : StringLexeme) : Except Refusal String := do
  let chars ← decodeUnits s.units s.fault
  return String.ofList chars

/-! ### Numbers -/

/-- The largest number that is kept exactly while digits come in. -/
def maxSignificand : Nat :=
  Nat.pow 2 64 - 1

/-- Takes digits into a number as long as it stays within its bound; returns the others. -/
def takeDigits : Nat → List Char → Nat × List Char
  | n, [] => (n, [])
  | n, c :: rest =>
    let next := 10 * n + (c.toNat - '0'.toNat)
    if next ≤ maxSignificand then takeDigits next rest else (n, c :: rest)

/-- The largest exponent. -/
def maxExponent : Nat :=
  Nat.pow 2 31 - 1

/-- The number of a list of exponent digits; none beyond the largest exponent. -/
def exponentOf? (digits : List Char) : Option Nat :=
  digits.foldl
    (fun n c => n.bind fun n =>
      let next := 10 * n + (c.toNat - '0'.toNat)
      if next ≤ maxExponent then some next else none)
    (some 0)

/-- Keeps an exponent within thirty-two bits. -/
def clampExponent (e : Int) : Int :=
  max (-(Nat.pow 2 31 : Int)) (min (Nat.pow 2 31 - 1 : Int) e)

/-- The floating-point number `± significand · 10 ^ exponent`. -/
def floatOf (negative : Bool) (significand : Nat) (exponent : Int) : Except Refusal Json :=
  match (Double.ofInt significand).scaleTen? exponent with
  | some d => .ok (.float (if negative then d.neg else d))
  | none => .error .malformed

/-- The value of a number: an integer if it is written as one and fits into sixty-four bits. -/
def NumberLexeme.value (n : NumberLexeme) : Except Refusal Json :=
  match n.fault with
  | some .cut => .error .truncated
  | some .wrong => .error .malformed
  | none =>
    let (s, dropped) := takeDigits 0 n.whole
    if n.fraction.isEmpty && n.exponent.isNone && dropped.isEmpty then
      if !n.negative then .ok (.int s)
      else if s = 0 ∨ Nat.pow 2 63 < s then .ok (.float (Double.ofInt s).neg)
      else .ok (.int (-(s : Int)))
    else
      let (s', ignored) := takeDigits s n.fraction
      let shift : Int := (dropped.length : Int) - (n.fraction.length - ignored.length : Nat)
      match n.exponent with
      | none => floatOf n.negative s' shift
      | some (below, digits) =>
        match exponentOf? digits with
        | some e => floatOf n.negative s' (clampExponent (if below then shift - e else shift + e))
        | none =>
          if s' = 0 ∨ below then .ok (.float (Double.ofFields n.negative 0))
          else .error .malformed

namespace Outline

/-! ### Values -/

/-- The number of brackets that may be open at once, plus one. -/
def depthLimit : Nat := 128

/-- Opens a bracket: the budget for what is inside. -/
def enter : Nat → Except Refusal Nat
  | 0 => .error .malformed
  | 1 => .error .malformed
  | budget + 2 => .ok (budget + 1)

/-- Nothing is wrong, or the given fault. -/
def closed : Option Refusal → Except Refusal Unit
  | none => .ok ()
  | some fault => .error fault

mutual

/-- A value of any shape. -/
def value (budget : Nat) : Outline → Except Refusal Json
  | .null => .ok .null
  | .bool b => .ok (.bool b)
  | .number n => n.value
  | .string s => do
    let text ← s.text
    return .string text
  | .array items fault => do
    let budget ← enter budget
    let items ← valueItems budget items
    closed fault
    return .array items
  | .object members fault => do
    let budget ← enter budget
    let members ← valueMembers budget members
    closed fault
    return .object members
  | .broken fault => .error fault

/-- The values of items, in order. -/
def valueItems (budget : Nat) : List Outline → Except Refusal (List Json)
  | [] => .ok []
  | item :: rest => do
    let value ← value budget item
    let values ← valueItems budget rest
    return value :: values

/-- The keys and values of members, in order. -/
def valueMembers (budget : Nat) :
    List (StringLexeme × Outline) → Except Refusal (List (String × Json))
  | [] => .ok []
  | (key, item) :: rest => do
    let key ← key.text
    let value ← value budget item
    let values ← valueMembers budget rest
    return (key, value) :: values

end

/-! ### Skipping -/

/-- A string that nobody asked for: half pairs are let through. -/
def skipString (s : StringLexeme) : Except Refusal Unit :=
  closed s.fault

mutual

/-- Passes over a value that nobody asked for: no depth limit, numbers of any size. -/
def skip : Outline → Except Refusal Unit
  | .null => .ok ()
  | .bool _ => .ok ()
  | .number n => if n.fault.isSome then .error .malformed else .ok ()
  | .string s => skipString s
  | .array items fault => do
    skipItems items
    closed fault
  | .object members fault => do
    skipMembers members
    closed fault
  | .broken fault => .error fault

/-- Passes over items. -/
def skipItems : List Outline → Except Refusal Unit
  | [] => .ok ()
  | item :: rest => do
    skip item
    skipItems rest

/-- Passes over members. -/
def skipMembers : List (StringLexeme × Outline) → Except Refusal Unit
  | [] => .ok ()
  | (key, item) :: rest => do
    skipString key
    skip item
    skipMembers rest

end

/-! ### Values of one shape -/

/-- The refusal of a value of an unexpected shape: its own fault if it is faulty on the surface. -/
def refuse {α : Type} : Outline → Except Refusal α
  | .number n => n.value >>= fun _ => .error .mismatch
  | .string s => s.text >>= fun _ => .error .mismatch
  | .broken fault => .error fault
  | _ => .error .mismatch

/-- A text. -/
def text : Outline → Except Refusal String
  | .string s => s.text
  | other => other.refuse

/-- A truth value. -/
def flag : Outline → Except Refusal Bool
  | .bool b => .ok b
  | other => other.refuse

/-- A whole number from zero up to a bound, which is left out. -/
def natural (bound : Nat) : Outline → Except Refusal Nat
  | .number n => do
    match ← n.value with
    | .int value => if 0 ≤ value ∧ value < bound then return value.toNat else throw .mismatch
    | _ => throw .mismatch
  | other => other.refuse

/-- The items of an array, each read by `read`. -/
def listItems {α : Type} (read : Outline → Except Refusal α) :
    List Outline → Except Refusal (List α)
  | [] => .ok []
  | item :: rest => do
    let value ← read item
    let values ← listItems read rest
    return value :: values

/-- An array, each item read by `read` with the budget inside. -/
def list {α : Type} (read : Nat → Outline → Except Refusal α) (budget : Nat) :
    Outline → Except Refusal (List α)
  | .array items fault => do
    let budget ← enter budget
    let values ← listItems (read budget) items
    closed fault
    return values
  | other => other.refuse

/-- Reads one field into the record read so far. -/
structure FieldReader (σ : Type) where
  names : List String
  read : Nat → Outline → σ → Except Refusal σ

/-- The members of an object; `seen` lists the places of the fields that came already. -/
def recordMembers {σ : Type} (fields : List (FieldReader σ)) (budget : Nat) (seen : List Nat)
    (state : σ) : List (StringLexeme × Outline) → Except Refusal σ
  | [] => .ok state
  | (key, item) :: rest => do
    let key ← key.text
    match fields.findIdx? (·.names.contains key) with
    | none =>
      skip item
      recordMembers fields budget seen state rest
    | some place =>
      if seen.contains place then .error .mismatch
      else
        match fields[place]? with
        | none => .error .mismatch
        | some field => do
          let state ← field.read budget item state
          recordMembers fields budget (place :: seen) state rest

/-- The items of an array taken as fields in order. -/
def recordItems {σ : Type} (budget : Nat) (fault : Option Refusal) :
    List (FieldReader σ) → List Outline → σ → Except Refusal σ
  | [], [], state => do
    closed fault
    return state
  | [], _ :: _, _ => .error .malformed
  | _ :: _, [], state => do
    closed fault
    return state
  | field :: fields, item :: items, state => do
    let state ← field.read budget item state
    recordItems budget fault fields items state

/-- A record: an object with the fields by name, or an array with the fields in order.  A name that
comes twice is refused, other names are passed over. -/
def record {σ : Type} (fields : List (FieldReader σ)) (budget : Nat) (state : σ) :
    Outline → Except Refusal σ
  | .object members fault => do
    let budget ← enter budget
    let state ← recordMembers fields budget [] state members
    closed fault
    return state
  | .array items fault => do
    let budget ← enter budget
    recordItems budget fault fields items state
  | other => other.refuse

end Outline

/-- A field that has to be there. -/
def required {α : Type} : Option α → Except Refusal α
  | some value => .ok value
  | none => .error .mismatch

/-- Reads a whole text: one value, with nothing but blanks behind it. -/
def readText {α : Type} (read : Nat → Outline → Except Refusal α) (text : String) :
    Except Refusal α := do
  let (outline, more) := Outline.ofText text
  let value ← read Outline.depthLimit outline
  if more then .error .malformed else return value

/-- The value that a text spells. -/
def parse (text : String) : Except Refusal Json :=
  readText Outline.value text

end Schemata.Json
