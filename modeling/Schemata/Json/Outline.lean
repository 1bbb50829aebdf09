import Schemata.Json.Lexeme

/-!
# Outlines of JSON texts

The outline of a text is the tree that its lexemes spell, as far as they spell one.  Where the
text breaks off or goes wrong, the outline holds the fault in its place, so that a reader who goes
through it from left to right meets the fault exactly where the text has it.

## Main definitions

* `Json.Outline` : the tree of a text, faults included.
* `Json.Outline.ofText` : the outline of a text and whether anything follows it.
-/

namespace Schemata.Json

/-- The tree of a text as far as it goes. -/
inductive Outline
  | null
  | bool (value : Bool)
  | number (lexeme : NumberLexeme)
  | string (lexeme : StringLexeme)
  /-- The items of an array, and what is wrong after the last of them. -/
  | array (items : List Outline) (fault : Option Refusal)
  /-- The members of an object, and what is wrong after the last of them. -/
  | object (members : List (StringLexeme × Outline)) (fault : Option Refusal)
  /-- No value stands here. -/
  | broken (fault : Refusal)
deriving Inhabited

namespace Outline

/-- A bracket that is still open: the items or members read so far. -/
inductive Frame
  | array (items : List Outline)
  | object (members : List (StringLexeme × Outline)) (key : StringLexeme)

/-- What the next lexeme has to be. -/
inductive Expected
  /-- A value; right after an opening bracket, its end will do. -/
  | value (first : Bool)
  /-- A key; right after an opening brace, its end will do. -/
  | key (members : List (StringLexeme × Outline)) (first : Bool)
  | colon (members : List (StringLexeme × Outline)) (key : StringLexeme)
  /-- After an item: a comma or the end of the array. -/
  | moreItems (items : List Outline)
  /-- After a member: a comma or the end of the object. -/
  | moreMembers (members : List (StringLexeme × Outline))

/-- Puts an unfinished outline into the brackets around it. -/
def unwind (fault : Refusal) : List Frame → Outline → Outline
  | [], inner => inner
  | .array items :: frames, inner => unwind fault frames (.array (items ++ [inner]) (some fault))
  | .object members key :: frames, inner =>
    unwind fault frames (.object (members ++ [(key, inner)]) (some fault))

/-- The outline when no key stands where one is expected: a faulty key takes its place, with what
stands there instead as its value. -/
def failKey (fault : Refusal) (frames : List Frame) (members : List (StringLexeme × Outline))
    (instead : Outline) : Outline :=
  unwind fault frames (.object (members ++ [(⟨[], some fault⟩, instead)]) (some fault))

/-- The value that a lexeme starts, as far as it goes. -/
def start : Lexeme → Outline
  | .null => .null
  | .bool b => .bool b
  | .number n => .number n
  | .string s => .string s
  | .openBracket => .array [] (some .malformed)
  | .openBrace => .object [] (some .malformed)
  | .word fault => .broken fault
  | _ => .broken .malformed

/-- The outline when the text goes wrong with `expected` open. -/
def fail (fault : Refusal) (frames : List Frame) : Expected → Outline
  | .value _ => unwind fault frames (.broken fault)
  | .key members _ => failKey fault frames members (.broken fault)
  | .colon members key => unwind fault (.object members key :: frames) (.broken fault)
  | .moreItems items => unwind fault frames (.array items (some fault))
  | .moreMembers members => unwind fault frames (.object members (some fault))

/-- A value inside the innermost bracket, and what comes next there. -/
def resume (value : Outline) : List Frame → Option (List Frame × Expected)
  | [] => none
  | .array items :: frames => some (frames, .moreItems (items ++ [value]))
  | .object members key :: frames => some (frames, .moreMembers (members ++ [(key, value)]))

/-- Reads lexemes inside the brackets `frames`.  The result is the outline of the whole text and
whether lexemes remain behind it. -/
def build : List Lexeme → List Frame → Expected → Outline × Bool
  | [], frames, expected => (fail .truncated frames expected, false)
  | lexeme :: rest, frames, expected =>
    let finish (value : Outline) (frames : List Frame) : Outline × Bool :=
      match resume value frames with
      | none => (value, !rest.isEmpty)
      | some (frames, expected) => build rest frames expected
    match expected, lexeme with
    | .value _, .null => finish .null frames
    | .value _, .bool b => finish (.bool b) frames
    | .value _, .number n => finish (.number n) frames
    | .value _, .string s => finish (.string s) frames
    | .value _, .word fault => (fail fault frames expected, false)
    | .value _, .openBracket => build rest (.array [] :: frames) (.value true)
    | .value _, .openBrace => build rest frames (.key [] true)
    | .value true, .closeBracket =>
      match frames with
      | .array [] :: frames => finish (.array [] none) frames
      | frames => (fail .malformed frames expected, false)
    | .key members _, .string s => build rest frames (.colon members s)
    | .key members true, .closeBrace => finish (.object members none) frames
    | .key members _, stray => (failKey .malformed frames members (start stray), false)
    | .colon members key, .colon => build rest (.object members key :: frames) (.value false)
    | .moreItems items, .comma => build rest (.array items :: frames) (.value false)
    | .moreItems items, .closeBracket => finish (.array items none) frames
    | .moreMembers members, .comma => build rest frames (.key members false)
    | .moreMembers members, .closeBrace => finish (.object members none) frames
    | expected, _ => (fail .malformed frames expected, false)

/-- The outline of a text, and whether anything but blanks follows the value. -/
def ofText (text : String) : Outline × Bool :=
  build (lex text.toList) [] (.value false)

end Outline

end Schemata.Json
