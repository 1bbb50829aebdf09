import Schemata.Bytes

/-!
# Lexemes of JSON texts

A JSON text is cut into lexemes.  A lexeme that breaks off or goes wrong is kept as far as it was
read, together with what is wrong with it, and ends the list: whether the fault counts is decided
by the reader, who may refuse the text at an earlier place.

## Main definitions

* `Json.Refusal` : the three reasons to refuse a text.
* `Json.Lexeme` : a lexeme, possibly faulty.
* `Json.lex` : the lexemes of a text.
-/

namespace Schemata.Json

/-- Why a text is refused. -/
inductive Refusal
  /-- The text ends too early. -/
  | truncated
  /-- The text is no JSON, or beyond the limits of the reader. -/
  | malformed
  /-- The text is JSON of another shape than expected. -/
  | mismatch
deriving DecidableEq, Repr

/-- One unit of a string: a character, or a sixteen-bit code written in hexadecimal. -/
inductive StringUnit
  | char (c : Char)
  | code (n : Nat)
deriving DecidableEq, Repr

/-- The units of a string up to its closing quote or its first fault. -/
structure StringLexeme where
  units : List StringUnit
  fault : Option Refusal
deriving DecidableEq, Repr

/-- What is wrong with a number: the text ends inside it, or a wrong character follows. -/
inductive NumberFault
  | cut
  | wrong
deriving DecidableEq, Repr

/-- The parts of a number up to its end or its first fault. -/
structure NumberLexeme where
  negative : Bool
  whole : List Char
  fraction : List Char
  exponent : Option (Bool × List Char)
  fault : Option NumberFault
deriving DecidableEq, Repr

/-- A lexeme of a JSON text. -/
inductive Lexeme
  | openBracket
  | closeBracket
  | openBrace
  | closeBrace
  | comma
  | colon
  | null
  | bool (value : Bool)
  /-- A word that is none of the three constants. -/
  | word (fault : Refusal)
  | string (lexeme : StringLexeme)
  | number (lexeme : NumberLexeme)
  /-- A character that starts no lexeme. -/
  | junk
deriving DecidableEq, Repr

/-- The four characters that may stand between lexemes. -/
def isBlank (c : Char) : Bool :=
  c = ' ' || c = '\n' || c = '\t' || c = '\r'

/-- The number of octets of a text. -/
def octets (text : List Char) : Nat :=
  (String.ofList text).utf8ByteSize

/-- The code of four hexadecimal digits; a text of fewer than four octets is cut short. -/
def hexCode (digits : List Char) : Except Refusal Nat :=
  match digits.mapM Bytes.hexValue? with
  | some [a, b, c, d] => .ok (((a * 16 + b) * 16 + c) * 16 + d)
  | _ => .error (if octets digits < 4 then .truncated else .malformed)

/-- The character that a backslash and a letter stand for. -/
def escaped? : Char → Option Char
  | '"' => some '"'
  | '\\' => some '\\'
  | '/' => some '/'
  | 'b' => some '\x08'
  | 'f' => some '\x0c'
  | 'n' => some '\n'
  | 'r' => some '\r'
  | 't' => some '\t'
  | _ => none

/-- Puts a unit in front of a string. -/
def StringLexeme.cons (unit : StringUnit) (s : StringLexeme) : StringLexeme :=
  { s with units := unit :: s.units }

/-- Reads the units of a string after its opening quote. -/
def lexString : List Char → StringLexeme × List Char
  | [] => (⟨[], some .truncated⟩, [])
  | '"' :: rest => (⟨[], none⟩, rest)
  | ['\\'] => (⟨[], some .truncated⟩, [])
  | '\\' :: 'u' :: a :: b :: c :: d :: rest =>
    match hexCode [a, b, c, d] with
    | .ok n =>
      let (s, rest') := lexString rest
      (s.cons (.code n), rest')
    | .error fault => (⟨[], some fault⟩, rest)
  | '\\' :: c :: rest =>
    if c = 'u' then
      match hexCode rest with
      | .ok _ => (⟨[], some .malformed⟩, [])
      | .error fault => (⟨[], some fault⟩, [])
    else
      match escaped? c with
      | some c' =>
        let (s, rest') := lexString rest
        (s.cons (.char c'), rest')
      | none => (⟨[], some .malformed⟩, rest)
  | c :: rest =>
    if c.toNat < 32 then (⟨[], some .malformed⟩, rest)
    else
      let (s, rest') := lexString rest
      (s.cons (.char c), rest')

/-- The fault of a number that needs a digit before `rest`. -/
def missingDigit (rest : List Char) : NumberFault :=
  if rest.isEmpty then .cut else .wrong

/-- Reads the sign of a power of ten; without one it is positive. -/
def lexSign : List Char → Bool × List Char
  | '+' :: rest => (false, rest)
  | '-' :: rest => (true, rest)
  | rest => (false, rest)

/-- Reads the power of ten of a number. -/
def lexExponent (n : NumberLexeme) : List Char → NumberLexeme × List Char
  | c :: rest =>
    if c = 'e' ∨ c = 'E' then
      let (negative, rest) := lexSign rest
      let digits := rest.takeWhile Char.isDigit
      let after := rest.dropWhile Char.isDigit
      if digits.isEmpty then ({ n with fault := some (missingDigit after) }, after)
      else ({ n with exponent := some (negative, digits) }, after)
    else (n, c :: rest)
  | [] => (n, [])

/-- Reads the digits after the point of a number, then its power of ten. -/
def lexFraction (n : NumberLexeme) : List Char → NumberLexeme × List Char
  | '.' :: rest =>
    let digits := rest.takeWhile Char.isDigit
    let after := rest.dropWhile Char.isDigit
    if digits.isEmpty then ({ n with fault := some (missingDigit after) }, after)
    else lexExponent { n with fraction := digits } after
  | rest => lexExponent n rest

/-- Reads a number after its sign. -/
def lexNumber (negative : Bool) (text : List Char) : NumberLexeme × List Char :=
  let digits := text.takeWhile Char.isDigit
  let after := text.dropWhile Char.isDigit
  let n : NumberLexeme := ⟨negative, digits, [], none, none⟩
  match digits with
  | [] => ({ n with fault := some (missingDigit after) }, after)
  | '0' :: _ :: _ => ({ n with fault := some .wrong }, after)
  | _ => lexFraction n after

/-- Reads the rest of a constant; reports the first place where the text has something else. -/
def lexWord : List Char → List Char → Option Refusal × List Char
  | [], rest => (none, rest)
  | _ :: _, [] => (some .truncated, [])
  | w :: ws, c :: rest => if c = w then lexWord ws rest else (some .malformed, rest)

theorem lexString_length (text : List Char) : (lexString text).2.length ≤ text.length := by
  fun_induction lexString text <;> simp_all <;> omega

theorem lexWord_length (word text : List Char) : (lexWord word text).2.length ≤ text.length := by
  fun_induction lexWord word text <;> simp_all
  omega

private theorem length_dropWhile_le (p : Char → Bool) (text : List Char) :
    (text.dropWhile p).length ≤ text.length :=
  (List.dropWhile_suffix p).length_le

private theorem lexSign_length (text : List Char) : (lexSign text).2.length ≤ text.length := by
  unfold lexSign
  split <;> simp

theorem lexExponent_length (n : NumberLexeme) (text : List Char) :
    (lexExponent n text).2.length ≤ text.length := by
  unfold lexExponent
  split
  · rename_i c rest
    have h1 := lexSign_length rest
    have h2 := length_dropWhile_le Char.isDigit (lexSign rest).2
    split
    · dsimp only
      split <;> simp only [List.length_cons] <;> omega
    · simp
  · simp

theorem lexFraction_length (n : NumberLexeme) (text : List Char) :
    (lexFraction n text).2.length ≤ text.length := by
  unfold lexFraction
  split
  · rename_i rest
    have h1 := length_dropWhile_le Char.isDigit rest
    dsimp only
    split
    · simp only [List.length_cons]; omega
    · have h2 := lexExponent_length { n with fraction := rest.takeWhile Char.isDigit }
        (rest.dropWhile Char.isDigit)
      simp only [List.length_cons]
      omega
  · exact lexExponent_length n _

theorem lexNumber_length (negative : Bool) (text : List Char) :
    (lexNumber negative text).2.length ≤ text.length := by
  have h1 := length_dropWhile_le Char.isDigit text
  unfold lexNumber
  dsimp only
  split
  · exact h1
  · exact h1
  · exact Nat.le_trans (lexFraction_length _ _) h1

theorem lexNumber_digit_length {c : Char} (h : c.isDigit = true) (rest : List Char) :
    (lexNumber false (c :: rest)).2.length ≤ rest.length := by
  have h1 := length_dropWhile_le Char.isDigit rest
  have h2 : (c :: rest).dropWhile Char.isDigit = rest.dropWhile Char.isDigit := by
    simp [h]
  unfold lexNumber
  dsimp only
  rw [h2]
  split
  · exact h1
  · exact h1
  · exact Nat.le_trans (lexFraction_length _ _) h1

/-- The lexemes of a text, up to and including the first faulty one. -/
def lex (text : List Char) : List Lexeme :=
  match text with
  | [] => []
  | c :: rest =>
    if isBlank c then lex rest
    else if c.isDigit = true then
      let n := (lexNumber false (c :: rest)).1
      .number n :: (if n.fault.isSome then [] else lex (lexNumber false (c :: rest)).2)
    else
      match c with
      | '[' => .openBracket :: lex rest
      | ']' => .closeBracket :: lex rest
      | '{' => .openBrace :: lex rest
      | '}' => .closeBrace :: lex rest
      | ',' => .comma :: lex rest
      | ':' => .colon :: lex rest
      | '"' =>
        let s := (lexString rest).1
        .string s :: (if s.fault.isSome then [] else lex (lexString rest).2)
      | '-' =>
        let n := (lexNumber true rest).1
        .number n :: (if n.fault.isSome then [] else lex (lexNumber true rest).2)
      | 'n' =>
        match (lexWord ['u', 'l', 'l'] rest).1 with
        | none => .null :: lex (lexWord ['u', 'l', 'l'] rest).2
        | some fault => [.word fault]
      | 't' =>
        match (lexWord ['r', 'u', 'e'] rest).1 with
        | none => .bool true :: lex (lexWord ['r', 'u', 'e'] rest).2
        | some fault => [.word fault]
      | 'f' =>
        match (lexWord ['a', 'l', 's', 'e'] rest).1 with
        | none => .bool false :: lex (lexWord ['a', 'l', 's', 'e'] rest).2
        | some fault => [.word fault]
      | _ => [.junk]
termination_by text.length
decreasing_by
  all_goals simp only [List.length_cons]
  all_goals apply Nat.lt_succ_of_le
  all_goals first
    | exact Nat.le_refl _
    | exact lexString_length _
    | exact lexNumber_length _ _
    | exact lexWord_length _ _
    | exact lexNumber_digit_length (by assumption) _

theorem lex_nil : lex [] = [] := by
  rw [lex]

end Schemata.Json
