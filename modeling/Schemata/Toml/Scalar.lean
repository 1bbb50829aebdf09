import Schemata.Json.Basic
import Schemata.Toml.Text

/-!
# Dates, times and numbers

The values that start with a digit, a sign or a letter.  A date or time is kept as an object with
one member that holds its normal form.

## Main definitions

* `Toml.dateTime` : a date, a time, or both.
* `Toml.number` : an integer or a floating-point number.
* `Toml.scalar` : any value that is neither a list nor a table.
-/

namespace Schemata.Toml

/-! ### Dates and times -/

/-- A number of exactly `count` digits. -/
def fixedDigits (count : Nat) : Reader Nat := fun text =>
  let digits := text.take count
  if digits.length = count ∧ digits.all Char.isDigit then
    some (digits.foldl (fun n c => 10 * n + (c.toNat - '0'.toNat)) 0, text.drop count)
  else none

/-- A number of two digits within bounds. -/
def twoDigits (least most : Nat) : Reader Nat := fun text => do
  let (n, rest) ← fixedDigits 2 text
  if least ≤ n ∧ n ≤ most then return (n, rest) else none

/-- Passes over one character. -/
def char? (c : Char) : List Char → Option (List Char)
  | first :: rest => if first = c then some rest else none
  | [] => none

/-- Has a year a twenty-ninth of February? -/
def isLeapYear (year : Nat) : Bool :=
  year % 4 = 0 && (year % 100 ≠ 0 || year % 400 = 0)

/-- The number of days of a month. -/
def daysOf (year month : Nat) : Nat :=
  if month = 2 then if isLeapYear year then 29 else 28
  else if month ∈ [4, 6, 9, 11] then 30
  else 31

/-- A number with zeros in front. -/
def padded (width n : Nat) : List Char :=
  let digits := (toString n).toList
  List.replicate (width - digits.length) '0' ++ digits

/-- A date in its normal form. -/
def date : Reader (List Char) := fun text => do
  let (year, rest) ← fixedDigits 4 text
  let rest ← char? '-' rest
  let (month, rest) ← twoDigits 1 12 rest
  let rest ← char? '-' rest
  let (day, rest) ← twoDigits 1 (daysOf year month) rest
  return (padded 4 year ++ '-' :: padded 2 month ++ '-' :: padded 2 day, rest)

/-- The fraction of a second, to nine places and without zeros at its end. -/
def fraction (text : List Char) : Option (List Char × List Char) :=
  match text with
  | '.' :: rest =>
    match rest.takeWhile Char.isDigit with
    | [] => none
    | digits =>
      let kept := ((digits.take 9).reverse.dropWhile (· = '0')).reverse
      some (if kept.isEmpty then [] else '.' :: kept, rest.dropWhile Char.isDigit)
  | _ => some ([], text)

/-- A time of day in its normal form. -/
def timeOfDay : Reader (List Char) := fun text => do
  let (hour, rest) ← twoDigits 0 23 text
  let rest ← char? ':' rest
  let (minute, rest) ← twoDigits 0 59 rest
  let rest ← char? ':' rest
  let (second, rest) ← twoDigits 0 60 rest
  let (part, rest) ← fraction rest
  return (padded 2 hour ++ ':' :: padded 2 minute ++ ':' :: padded 2 second ++ part, rest)

/-- The distance from universal time in its normal form; no distance is written with a plus. -/
def offset (text : List Char) : Option (List Char × List Char) :=
  match text with
  | 'Z' :: rest | 'z' :: rest => some (['Z'], rest)
  | '+' :: rest | '-' :: rest => do
    let (hour, rest) ← twoDigits 0 23 rest
    let rest ← char? ':' rest
    let (minute, rest) ← twoDigits 0 59 rest
    let sign := if text.head? = some '-' ∧ (hour ≠ 0 ∨ minute ≠ 0) then '-' else '+'
    return (sign :: padded 2 hour ++ ':' :: padded 2 minute, rest)
  | _ => some ([], text)

/-- A date, a time of day, or a date and a time of day, in its normal form. -/
def dateTimeText : Reader (List Char) := fun text =>
  match date text with
  | none => timeOfDay text
  | some (day, rest) =>
    match rest with
    | c :: after =>
      if c = 'T' ∨ c = 't' ∨ c = ' ' then
        match timeOfDay after with
        | none => some (day, rest)
        | some (time, rest) => do
          let (shift, rest) ← offset rest
          return (day ++ 'T' :: time ++ shift, rest)
      else some (day, rest)
    | [] => some (day, [])

/-- The name of the member that holds a date or time. -/
def dateTimeKey : String := "$__toml_private_datetime"

/-- A date, a time, or both. -/
def dateTime : Reader Json := fun text => do
  let (found, rest) ← dateTimeText text
  return (.object [(dateTimeKey, .string (String.ofList found))], rest)

/-! ### Numbers -/

/-- More digits of a number; a low line may stand between two of them. -/
def moreDigits (ok : Char → Bool) : Reader (List Char)
  | [] => some ([], [])
  | ['_'] => none
  | '_' :: c :: rest => if ok c then consChar c (moreDigits ok rest) else none
  | c :: rest => if ok c then consChar c (moreDigits ok rest) else some ([], c :: rest)

/-- Digits, at least one. -/
def digits (ok : Char → Bool) : Reader (List Char)
  | c :: rest => if ok c then consChar c (moreDigits ok rest) else none
  | [] => none

/-- A whole number in decimal; only zero itself starts with a zero. -/
def wholeDigits : Reader (List Char)
  | '0' :: rest => some (['0'], rest)
  | text => digits Char.isDigit text

/-- Passes over a sign and tells whether it is a minus. -/
def sign : List Char → Bool × List Char
  | '-' :: rest => (true, rest)
  | '+' :: rest => (false, rest)
  | text => (false, text)

/-- The number that digits spell in a base. -/
def valueOf (base : Nat) (digits : List Char) : Nat :=
  digits.foldl (fun n c => base * n + (Bytes.hexValue? c).getD 0) 0

/-- An integer, if it fits into sixty-four bits. -/
def integer? (negative : Bool) (magnitude : Nat) : Option Json :=
  if negative then if magnitude ≤ Nat.pow 2 63 then some (.int (-(magnitude : Int))) else none
  else if magnitude < Nat.pow 2 63 then some (.int magnitude) else none

/-- A whole number in another base, after its mark. -/
def basedInteger (base : Nat) : Reader Json := fun text => do
  let ok (c : Char) : Bool := (Bytes.hexValue? c).any (· < base)
  let (found, rest) ← digits ok text
  return (← integer? false (valueOf base found), rest)

/-- The part after the point, if there is one. -/
def fractionDigits (text : List Char) : Option (Option (List Char) × List Char) :=
  match text with
  | '.' :: rest => (digits Char.isDigit rest).map fun (found, rest) => (some found, rest)
  | _ => some (none, text)

/-- The power of ten, if there is one. -/
def exponentDigits (text : List Char) : Option (Option (Bool × List Char) × List Char) :=
  match text with
  | 'e' :: rest | 'E' :: rest =>
    let (below, rest) := sign rest
    (digits Char.isDigit rest).map fun (found, rest) => (some (below, found), rest)
  | _ => some (none, text)

/-- The number nearest to `± significand · 10 ^ exponent`.  Powers that are out of reach are
decided by their size alone. -/
def nearest (negative : Bool) (significand : Nat) (exponent : Int) : Double :=
  let magnitude : Int := (toString significand).length + exponent
  if significand = 0 ∨ magnitude < -400 then Double.ofFields negative 0
  else if 400 < magnitude then Double.ofFields negative Double.infinityMagnitude
  else
    Double.ofRatio negative (significand * Nat.pow 10 exponent.toNat)
      (Nat.pow 10 (-exponent).toNat)

/-- A floating-point number; one that is too large is refused unless it is negative. -/
def float? (negative : Bool) (whole : List Char) (fraction : List Char)
    (exponent : Option (Bool × List Char)) : Option Json :=
  let power : Int :=
    match exponent with
    | none => 0
    | some (true, digits) => -(valueOf 10 digits : Int)
    | some (false, digits) => valueOf 10 digits
  let d := nearest negative (valueOf 10 (whole ++ fraction)) (power - fraction.length)
  if d.isSpecial ∧ ¬ negative then none else some (.float d)

/-- The special number at the start of a text. -/
def special? (negative : Bool) : Reader Json
  | 'i' :: 'n' :: 'f' :: rest =>
    some (.float (Double.ofFields negative Double.infinityMagnitude), rest)
  | 'n' :: 'a' :: 'n' :: rest =>
    some (.float (Double.ofFields negative (Double.infinityMagnitude + Nat.pow 2 51)), rest)
  | _ => none

/-- An integer or a floating-point number. -/
def number : Reader Json
  | '0' :: 'x' :: rest => basedInteger 16 rest
  | '0' :: 'o' :: rest => basedInteger 8 rest
  | '0' :: 'b' :: rest => basedInteger 2 rest
  | text => do
    let (negative, unsigned) := sign text
    match special? negative unsigned with
    | some found => return found
    | none =>
      let (whole, rest) ← wholeDigits unsigned
      let (fraction, rest) ← fractionDigits rest
      let (exponent, rest) ← exponentDigits rest
      match fraction, exponent with
      | none, none => return (← integer? negative (valueOf 10 whole), rest)
      | _, _ => return (← float? negative whole (fraction.getD []) exponent, rest)

/-- Any value that is neither a list nor a table. -/
def scalar : Reader Json
  | 't' :: 'r' :: 'u' :: 'e' :: rest => some (.bool true, rest)
  | 'f' :: 'a' :: 'l' :: 's' :: 'e' :: rest => some (.bool false, rest)
  | '"' :: rest => (text ('"' :: rest)).map (·.map Json.string id)
  | '\'' :: rest => (text ('\'' :: rest)).map (·.map Json.string id)
  | chars => dateTime chars <|> number chars

end Schemata.Toml
