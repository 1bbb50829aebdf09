import Schemata.Pattern.Flags
import Schemata.Text.CodePoint

/-!
# Escapes of patterns

What a backslash may introduce: a character, a set of characters, or a condition on a position.

## Main definitions

* `Pattern.Escape` : what an escape stands for.
* `Pattern.readEscape?` : reads what follows a backslash.
-/

namespace Schemata.Pattern

/-- What an escape stands for. -/
inductive Escape
  | char (c : Char)
  | chars (set : CharSet)
  | look (condition : Look)

/-- Reads a number of hexadecimal digits; between them blanks may be passed over. -/
def readHexDigits? (flags : Flags) : Nat → List Char → Option (List Char × List Char)
  | 0, cs => some ([], cs)
  | n + 1, cs =>
    match cs with
    | [] => none
    | c :: rest => do
      let (digits, rest) ← readHexDigits? flags n (skipBlanks flags rest)
      return (c :: digits, rest)

/-- The text up to a closing brace; blanks and comments are left out if they do not count. -/
def readBraced? (spaced inComment : Bool) : List Char → Option (List Char × List Char)
  | [] => none
  | c :: rest =>
    if inComment then readBraced? spaced (c != '\n') rest
    else if spaced && isBlank c then readBraced? spaced false rest
    else if spaced && c = '#' then readBraced? spaced true rest
    else if c = '\x7d' then some ([], rest)
    else (readBraced? spaced false rest).map fun (text, rest) => (c :: text, rest)

/-- Reads a character by its code: in braces, or as a fixed number of digits. -/
def readHex? (flags : Flags) (width : Nat) (cs : List Char) : Option (Escape × List Char) := do
  match skipBlanks flags cs with
  | '\x7b' :: rest =>
    let (digits, rest) ← readBraced? flags.spaced false rest
    guard (!digits.isEmpty)
    let c ← CodePoint.toChar? (← CodePoint.ofHex? digits)
    return (.char c, skipBlanks flags rest)
  | cs =>
    let (digits, rest) ← readHexDigits? flags width cs
    let c ← CodePoint.toChar? (← CodePoint.ofHex? digits)
    -- A two-digit code is an octet, and single octets above ASCII are no text.
    guard (flags.unicode || width != 2 || c.toNat < 128)
    return (.char c, rest)

/-- Cuts a text in two at the first place of a separator. -/
def cutAt? (separator : List Char) : List Char → Option (List Char × List Char)
  | [] => none
  | c :: rest =>
    if separator.isPrefixOf (c :: rest) then some ([], (c :: rest).drop separator.length)
    else (cutAt? separator rest).map fun (left, right) => (c :: left, right)

/-- A set of characters, or what is outside of it. -/
structure SignedSet where
  negated : Bool
  set : CharSet

/-- The set of a property in braces: a name, or a name and a value it has or has not. -/
def bracedSet? (text : List Char) : Option SignedSet :=
  match cutAt? ['!', '='] text with
  | some (name, value) => (CharClass.valued? name value).map (⟨true, ·⟩)
  | none =>
    match cutAt? [':'] text <|> cutAt? ['='] text with
    | some (name, value) => (CharClass.valued? name value).map (⟨false, ·⟩)
    | none => (CharClass.named? text).map (⟨false, ·⟩)

/-- Reads the property of a class; `negated` asks for the characters without it. -/
def readProperty? (flags : Flags) (negated : Bool) (cs : List Char) :
    Option (Escape × List Char) := do
  guard flags.unicode
  match skipBlanks flags cs with
  | [] => none
  | '\\' :: _ => none
  | '\x7b' :: rest =>
    let (text, rest) ← readBraced? flags.spaced false rest
    let signed ← bracedSet? text
    let set ← flags.negate? (negated != signed.negated) (flags.fold signed.set)
    return (.chars set, rest)
  | c :: rest =>
    let set ← flags.negate? negated (flags.fold (← CharClass.named? [c]))
    return (.chars set, skipBlanks flags rest)

/-- Characters that may be escaped to stand for themselves: ASCII, but no letter, digit or angle
bracket. -/
def isEscapable (c : Char) : Bool :=
  decide (c.toNat < 128) && !(c.isAlphanum || c = '<' || c = '>')

/-- The letters that stand for control characters. -/
def controlChar? : Char → Option Char
  | 'a' => some '\x07'
  | 'f' => some '\x0c'
  | 't' => some '\t'
  | 'n' => some '\n'
  | 'r' => some '\r'
  | 'v' => some '\x0b'
  | _ => none

/-- May the character stand in the name of a word boundary? -/
def isBoundaryNameChar (c : Char) : Bool :=
  c.isAlpha || c = '-'

/-- Reads the name of a word boundary in braces, if braces that hold a name follow. -/
def readBoundary? (flags : Flags) (cs : List Char) : Option (Escape × List Char) :=
  let plain := some (Escape.look (.wordBoundary flags.unicode), cs)
  match cs with
  | '\x7b' :: rest =>
    match skipBlanks flags rest with
    | [] => none
    | c :: after =>
      if !isBoundaryNameChar c then plain
      else do
        let (name, rest) ← readBraced? flags.spaced false (c :: after)
        match String.ofList name with
        | "start" => return (.look (.wordStart flags.unicode), rest)
        | "end" => return (.look (.wordEnd flags.unicode), rest)
        | "start-half" => return (.look (.wordStartHalf flags.unicode), rest)
        | "end-half" => return (.look (.wordEndHalf flags.unicode), rest)
        | _ => none
  | _ => plain

/-- Reads what follows a backslash. -/
def readEscape? (flags : Flags) : List Char → Option (Escape × List Char)
  | [] => none
  | c :: rest =>
    let classOf (negated : Bool) (set : CharSet) : Option (Escape × List Char) :=
      (flags.negate? negated set).map fun set => (.chars set, rest)
    match c with
    | 'x' => readHex? flags 2 rest
    | 'u' => readHex? flags 4 rest
    | 'U' => readHex? flags 8 rest
    | 'p' => readProperty? flags false rest
    | 'P' => readProperty? flags true rest
    | 'd' => classOf false (CharClass.digits flags.unicode)
    | 'D' => classOf true (CharClass.digits flags.unicode)
    | 's' => classOf false (CharClass.blanks flags.unicode)
    | 'S' => classOf true (CharClass.blanks flags.unicode)
    | 'w' => classOf false (CharClass.wordChars flags.unicode)
    | 'W' => classOf true (CharClass.wordChars flags.unicode)
    | 'A' => some (.look .textStart, rest)
    | 'z' => some (.look .textEnd, rest)
    | 'b' => readBoundary? flags rest
    | 'B' => some (.look (.notWordBoundary flags.unicode), rest)
    | '<' => some (.look (.wordStart flags.unicode), rest)
    | '>' => some (.look (.wordEnd flags.unicode), rest)
    | c =>
      if isEscapable c then some (.char c, rest)
      else (controlChar? c).map fun c => (.char c, rest)

end Schemata.Pattern
