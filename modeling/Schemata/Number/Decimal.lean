import Schemata.Number.Double

/-!
# Shortest decimal texts

The decimal of a double is the shortest one that rounds back to it; of several, the nearest.  The
digits are found by exact arithmetic on the interval of the fractions that round to the double.
Three layouts are in use: positional always, positional or with an exponent as a data format writes
it, and the same with another range.  They also differ in which of two equally near decimals they
take.

## Main definitions

* `Decimal.ofDouble` : the shortest decimal of a positive finite double.
* `Decimal.positional`, `Decimal.scientific` : the two layouts.
* `Double.toPlainText`, `Double.toCanonicalText`, `Double.toJsonText` : the texts in use.
-/

namespace Schemata

/-- A positive decimal `0.d₁d₂… · 10 ^ point`, its digits without zeros at the end. -/
structure Decimal where
  digits : List Char
  point : Int
deriving DecidableEq, Repr

namespace Decimal

/-- Compares `a / b` with `10 ^ k`: is the fraction at least the power? -/
def geTenPower (num den : Nat) (k : Int) : Bool :=
  den * Nat.pow 10 k.toNat ≤ num * Nat.pow 10 (-k).toNat

/-- The `k` with `10 ^ (k - 1) ≤ num / den < 10 ^ k`, searched upwards from `k`. -/
def pointFrom (num den : Nat) : Nat → Int → Int
  | 0, k => k
  | fuel + 1, k => if geTenPower num den k then pointFrom num den fuel (k + 1) else k

/-- The number of digits before the decimal point of `num / den`; below one, minus the number of
zeros that follow the point. -/
def pointOf (num den : Nat) : Int :=
  let binary : Int := (num.log2 : Int) - den.log2
  -- `log10 2` lies between the two fractions, so the search starts low and takes few steps.
  pointFrom num den 8 (binary * (if binary < 0 then 30103 else 30102) / 100000 - 1)

/-- The interval of the fractions `x / den` that round to a double, in units of its denominator. -/
structure Interval where
  low : Nat
  value : Nat
  high : Nat
  den : Nat
  closed : Bool

/-- The fractions that round to a positive finite double. -/
def intervalOf (d : Double) : Interval :=
  let m := d.mantissa
  let scale := Nat.pow 2 (d.exponent - 2).toNat
  -- Just above a power of two the neighbour below is only half as far away.
  let below := if m = Nat.pow 2 52 ∧ -1074 < d.exponent then 1 else 2
  { low := (4 * m - below) * scale
    value := 4 * m * scale
    high := (4 * m + 2) * scale
    den := Nat.pow 2 (2 - d.exponent).toNat
    closed := m % 2 = 0 }

/-- Does `count · 10 ^ unit` lie in the interval? -/
def Interval.contains (i : Interval) (count : Nat) (unit : Int) : Bool :=
  let x := count * Nat.pow 10 unit.toNat * i.den
  let scale := Nat.pow 10 (-unit).toNat
  if i.closed then i.low * scale ≤ x && x ≤ i.high * scale
  else i.low * scale < x && x < i.high * scale

/-- Which of two equally near decimals is taken. -/
inductive Tie
  | larger
  | even
deriving DecidableEq, Repr

/-- Is the decimal above a fraction taken, and not the one below?  `below` counts the units of the
latter, and `double` is twice what the fraction has more than that, of `whole`. -/
def Tie.takesUpper (tie : Tie) (below double whole : Nat) : Bool :=
  match tie with
  | larger => decide (whole ≤ double)
  | even => decide (whole < double) || (double == whole && below % 2 == 1)

/-- The multiple of `10 ^ unit` in the interval that is nearest to the value. -/
def Interval.nearest? (i : Interval) (tie : Tie) (unit : Int) : Option Nat :=
  let num := i.value * Nat.pow 10 (-unit).toNat
  let den := i.den * Nat.pow 10 unit.toNat
  let below := num / den
  let preferUpper := tie.takesUpper below (2 * (num % den)) den
  match i.contains below unit, i.contains (below + 1) unit with
  | true, true => some (if preferUpper then below + 1 else below)
  | true, false => some below
  | false, true => some (below + 1)
  | false, false => none

/-- The first grid, coarse to fine, that has a point in the interval. -/
def Interval.shortest (i : Interval) (tie : Tie) : Nat → Int → Nat × Int
  | 0, unit => (i.value * Nat.pow 10 (-unit).toNat / (i.den * Nat.pow 10 unit.toNat), unit)
  | fuel + 1, unit =>
    match i.nearest? tie unit with
    | some count => (count, unit)
    | none => i.shortest tie fuel (unit - 1)

/-- Drops the zeros at the end of a digit list. -/
def dropTrailingZeros (digits : List Char) : List Char :=
  (digits.reverse.dropWhile (· = '0')).reverse

/-- The shortest decimal that rounds to a positive finite double. -/
def ofDouble (tie : Tie) (d : Double) : Decimal :=
  let i := intervalOf d
  let (count, unit) := i.shortest tie 17 (pointOf i.value i.den - 1)
  let digits := Nat.toDigits 10 count
  ⟨dropTrailingZeros digits, unit + digits.length⟩

/-- `count` zeros. -/
def zeros (count : Nat) : List Char :=
  List.replicate count '0'

/-- All digits around a decimal point; `whole` follows a number without a fraction. -/
def positional (d : Decimal) (whole : List Char) : List Char :=
  if d.point ≤ 0 then
    '0' :: '.' :: zeros d.point.natAbs ++ d.digits
  else if d.point < d.digits.length then
    d.digits.take d.point.toNat ++ '.' :: d.digits.drop d.point.toNat
  else
    d.digits ++ zeros (d.point.toNat - d.digits.length) ++ whole

/-- One digit, the others after a point, and the power of ten; `plus` stands before a power that
is not negative. -/
def scientific (d : Decimal) (plus : List Char) : List Char :=
  let tail := match d.digits.drop 1 with
    | [] => []
    | rest => '.' :: rest
  let sign := if d.point < 1 then [] else plus
  d.digits.take 1 ++ tail ++ 'e' :: sign ++ (toString (d.point - 1)).toList

end Decimal

namespace Double

/-- The layout choices of a number text. -/
structure Layout where
  /-- Positional when the point lies strictly above this place. -/
  pointAbove : Option Int
  /-- Positional when the point lies at or below this place. -/
  pointUpTo : Option Int
  /-- What follows a number without a fraction. -/
  whole : List Char
  /-- What stands before an exponent that is not negative. -/
  plus : List Char
  /-- Which of two equally near decimals is taken. -/
  tie : Decimal.Tie

/-- Digits only, whatever the magnitude. -/
def plainLayout : Layout := ⟨none, none, [], [], .larger⟩

/-- Positional from `0.0001` to below `10 ^ 16`, with a fraction always. -/
def canonicalLayout : Layout := ⟨some (-4), some 16, ['.', '0'], [], .larger⟩

/-- Positional from `0.00001` to below `10 ^ 16`, with a fraction always; exponents have a sign,
and ties go to the even digit. -/
def jsonLayout : Layout := ⟨some (-5), some 16, ['.', '0'], ['+'], .even⟩

/-- The absolute value of a finite number in a layout. -/
def magnitudeText (layout : Layout) (d : Double) : List Char :=
  if d.mantissa = 0 then '0' :: layout.whole
  else
    let decimal := Decimal.ofDouble layout.tie d
    let above := match layout.pointAbove with
      | none => true
      | some bound => bound < decimal.point
    let upTo := match layout.pointUpTo with
      | none => true
      | some bound => decimal.point ≤ bound
    if above && upTo then decimal.positional layout.whole else decimal.scientific layout.plus

/-- The text of any number in a layout. -/
def text (layout : Layout) (d : Double) : String :=
  if d.isNaN then "NaN"
  else
    let magnitude := if d.isSpecial then ['i', 'n', 'f'] else d.magnitudeText layout
    String.ofList (if d.negative then '-' :: magnitude else magnitude)

/-- The shortest digits, always positional. -/
def toPlainText (d : Double) : String :=
  d.text plainLayout

/-- The shortest digits with a fraction or an exponent, as canonical texts hold them. -/
def toCanonicalText (d : Double) : String :=
  d.text canonicalLayout

/-- The shortest digits as a JSON number; no JSON number stands for the special values. -/
def toJsonText (d : Double) : String :=
  if d.isSpecial then "null" else d.text jsonLayout

/-- A number in generated source: whole numbers below `10 ^ 15` as integers, so that both zeros
read `0`, and all others by their shortest digits. -/
def toSource (d : Double) : String :=
  if d.isWhole && d.numerator / d.denominator < Nat.pow 10 15 then
    let n := d.numerator / d.denominator
    if d.negative && n != 0 then s!"-{n}" else toString n
  else d.toPlainText

end Double

end Schemata
