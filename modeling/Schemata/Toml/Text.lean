import Schemata.Text.CodePoint

/-!
# Texts and keys

The four ways to write a text, and the keys of tables.  A reader takes the characters to be read
and returns what it found with the characters behind it.

## Main definitions

* `Toml.text` : a text in quotes or triple quotes of either kind.
* `Toml.keyPath` : a key, dotted or not.
* `Toml.lineEnd`, `Toml.skipLines` : what may stand between values.
-/

namespace Schemata.Toml

/-- Reads something at the start of a text. -/
abbrev Reader (α : Type) :=
  List Char → Option (α × List Char)

/-! ### Blanks, comments and line ends -/

/-- A blank inside a line. -/
def isBlank (c : Char) : Bool :=
  c = ' ' || c = '\t'

/-- A character that may be written as it is: no control character except the tab. -/
def isPlain (c : Char) : Bool :=
  c = '\t' || (' ' ≤ c && c ≤ '~') || 0x80 ≤ c.toNat

/-- Passes over blanks. -/
def skipBlanks (text : List Char) : List Char :=
  text.dropWhile isBlank

/-- Passes over a comment, if there is one. -/
def skipComment : List Char → List Char
  | '#' :: rest => rest.dropWhile isPlain
  | text => text

/-- Passes over a line end, if there is one. -/
def newline? : List Char → Option (List Char)
  | '\n' :: rest => some rest
  | '\r' :: '\n' :: rest => some rest
  | _ => none

/-- Passes over what may close a line: blanks, a comment, and the line end or the end of the
text. -/
def lineEnd (text : List Char) : Option (List Char) :=
  match skipComment (skipBlanks text) with
  | [] => some []
  | rest => newline? rest

/-- Passes over blanks, comments and line ends. -/
def skipLines (text : List Char) : List Char :=
  let rest := skipComment (skipBlanks text)
  match newline? rest with
  | some next => if next.length < text.length then skipLines next else next
  | none => rest
termination_by text.length

/-! ### Texts -/

/-- Puts a character in front of what was read. -/
def consChar (c : Char) (rest : Option (List Char × List Char)) :
    Option (List Char × List Char) :=
  rest.map fun (text, rest) => (c :: text, rest)

/-- The character that a letter after a backslash stands for. -/
def escaped? : Char → Option Char
  | 'b' => some '\x08'
  | 't' => some '\t'
  | 'n' => some '\n'
  | 'f' => some '\x0c'
  | 'r' => some '\r'
  | '"' => some '"'
  | '\\' => some '\\'
  | _ => none

/-- The character with a code in hexadecimal. -/
def coded? (digits : List Char) : Option Char := do
  let code ← CodePoint.ofHex? digits
  CodePoint.toChar? code

/-- A text in double quotes, after the first of them. -/
def basicText : List Char → Option (List Char × List Char)
  | [] => none
  | '"' :: rest => some ([], rest)
  | '\\' :: 'u' :: a :: b :: c :: d :: rest => do
    consChar (← coded? [a, b, c, d]) (basicText rest)
  | '\\' :: 'U' :: a :: b :: c :: d :: e :: f :: g :: h :: rest => do
    consChar (← coded? [a, b, c, d, e, f, g, h]) (basicText rest)
  | '\\' :: c :: rest => do
    consChar (← escaped? c) (basicText rest)
  | c :: rest => if isPlain c then consChar c (basicText rest) else none

/-- A text in single quotes, after the first of them. -/
def literalText : List Char → Option (List Char × List Char)
  | [] => none
  | '\'' :: rest => some ([], rest)
  | c :: rest => if isPlain c then consChar c (literalText rest) else none

/-- The end of a text in triple quotes: up to two more quotes belong to the text. -/
def closing (quote : Char) : List Char → List Char × List Char
  | a :: b :: rest =>
    if a ≠ quote then ([], a :: b :: rest)
    else if b = quote then ([a, b], rest)
    else ([a], b :: rest)
  | [a] => if a = quote then ([a], []) else ([], [a])
  | [] => ([], [])

/-- Do only blanks stand before the end of the line? -/
def blankLine (text : List Char) : Bool :=
  (newline? (skipBlanks text)).isSome

/-- A text in triple double quotes, after them.  A backslash at the end of a line takes away all
blanks and line ends that follow; `folding` tells that this is going on. -/
def basicLines (folding : Bool) : List Char → Option (List Char × List Char)
  | [] => none
  | '"' :: '"' :: '"' :: rest => some (closing '"' rest)
  | '"' :: rest => consChar '"' (basicLines false rest)
  | '\\' :: 'u' :: a :: b :: c :: d :: rest => do
    consChar (← coded? [a, b, c, d]) (basicLines false rest)
  | '\\' :: 'U' :: a :: b :: c :: d :: e :: f :: g :: h :: rest => do
    consChar (← coded? [a, b, c, d, e, f, g, h]) (basicLines false rest)
  | '\\' :: c :: rest =>
    if blankLine (c :: rest) then basicLines true (c :: rest)
    else do consChar (← escaped? c) (basicLines false rest)
  | '\r' :: '\n' :: rest =>
    if folding then basicLines true rest else consChar '\n' (basicLines false rest)
  | '\n' :: rest =>
    if folding then basicLines true rest else consChar '\n' (basicLines false rest)
  | c :: rest =>
    if folding && isBlank c then basicLines true rest
    else if isPlain c && c ≠ '\\' then consChar c (basicLines false rest)
    else none

/-- A text in triple single quotes, after them. -/
def literalLines : List Char → Option (List Char × List Char)
  | [] => none
  | '\'' :: '\'' :: '\'' :: rest => some (closing '\'' rest)
  | '\r' :: '\n' :: rest => consChar '\n' (literalLines rest)
  | '\n' :: rest => consChar '\n' (literalLines rest)
  | c :: rest => if isPlain c then consChar c (literalLines rest) else none

/-- Passes over a line end right after triple quotes. -/
def afterQuotes (text : List Char) : List Char :=
  (newline? text).getD text

/-- A text in quotes. -/
def text : Reader String
  | '"' :: '"' :: '"' :: rest => (basicLines false (afterQuotes rest)).map (·.map String.ofList id)
  | '"' :: rest => (basicText rest).map (·.map String.ofList id)
  | '\'' :: '\'' :: '\'' :: rest => (literalLines (afterQuotes rest)).map (·.map String.ofList id)
  | '\'' :: rest => (literalText rest).map (·.map String.ofList id)
  | _ => none

/-! ### Keys -/

/-- A character of a key without quotes. -/
def isBare (c : Char) : Bool :=
  c.isAlphanum || c = '_' || c = '-'

/-- A key without dots. -/
def simpleKey : Reader String
  | '"' :: rest => (basicText rest).map (·.map String.ofList id)
  | '\'' :: rest => (literalText rest).map (·.map String.ofList id)
  | text =>
    match text.takeWhile isBare with
    | [] => none
    | key => some (String.ofList key, text.dropWhile isBare)

/-- The number of keys that a dotted key may not reach. -/
def keyLimit : Nat := 80

/-- Keys parted by dots, with blanks around each. -/
def keys (text : List Char) : Option (List String × List Char) := do
  let (key, rest) ← simpleKey (skipBlanks text)
  match skipBlanks rest with
  | '.' :: rest =>
    if rest.length < text.length then
      let (more, rest) ← keys rest
      return (key :: more, rest)
    else none
  | rest => return ([key], rest)
termination_by text.length

/-- A key, as the keys before its last dot and the last one. -/
def keyPath : Reader (List String × String) := fun text => do
  let (found, rest) ← keys text
  let last ← found.getLast?
  if found.length < keyLimit then return ((found.dropLast, last), rest) else none

end Schemata.Toml
