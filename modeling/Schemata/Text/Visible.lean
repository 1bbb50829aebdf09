import Schemata.Text.Unicode.Recent

/-!
# Visible texts

A second quoted form, used inside canonical texts: characters that would not show, that may be
ignored, or that would join the sign before them, are written by their code point.

## Main definitions

* `Visible.escape` : the visible form of one character.
* `Visible.quote` : a whole text in quotes.
-/

namespace Schemata.Visible

/-- A character by its code point: a backslash, `u` and the hexadecimal code in braces. -/
def codePoint (c : Char) : List Char :=
  '\\' :: 'u' :: '{' :: Nat.toDigits 16 c.toNat ++ ['}']

/-- Does the character show by itself? -/
def isVisible (c : Char) : Bool :=
  Unicode.isPrintable c && !Unicode.isCombining c && !Unicode.defaultIgnorableCodePoint.holds c

/-- The visible form of one character inside quotes. -/
def escape (c : Char) : List Char :=
  match c with
  | '\x00' => ['\\', '0']
  | '\t' => ['\\', 't']
  | '\r' => ['\\', 'r']
  | '\n' => ['\\', 'n']
  | '\\' => ['\\', '\\']
  | '"' => ['\\', '"']
  | c => if isVisible c then [c] else codePoint c

/-- A text in double quotes with every character visible. -/
def quote (text : String) : String :=
  String.ofList ('"' :: text.toList.flatMap escape ++ ['"'])

end Schemata.Visible
