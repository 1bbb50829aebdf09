/-!
# Quoted texts

A text in double quotes, as JSON and generated source write it: the quote, the backslash and
control characters are escaped, everything else stands for itself.

## Main definitions

* `Quoted.escape` : the written form of one character.
* `Quoted.quote` : a whole text in quotes.
-/

namespace Schemata.Quoted

/-- Four lower-case hexadecimal digits. -/
def hex4 (n : Nat) : List Char :=
  [Nat.digitChar (n / 4096 % 16), Nat.digitChar (n / 256 % 16),
    Nat.digitChar (n / 16 % 16), Nat.digitChar (n % 16)]

/-- The written form of one character inside quotes. -/
def escape (c : Char) : List Char :=
  match c with
  | '"' => ['\\', '"']
  | '\\' => ['\\', '\\']
  | '\x08' => ['\\', 'b']
  | '\x09' => ['\\', 't']
  | '\x0a' => ['\\', 'n']
  | '\x0c' => ['\\', 'f']
  | '\x0d' => ['\\', 'r']
  | c => if c.toNat < 32 then '\\' :: 'u' :: hex4 c.toNat else [c]

/-- The characters of a quoted text. -/
def quoteChars (text : List Char) : List Char :=
  '"' :: text.flatMap escape ++ ['"']

/-- A text in double quotes. -/
def quote (text : String) : String :=
  String.ofList (quoteChars text.toList)

end Schemata.Quoted
