/-!
# Binary floating-point numbers

A `Double` is a bit pattern of the 64-bit binary interchange format.  A finite pattern stands for
`± mantissa · 2 ^ exponent`; all arithmetic here goes through exact fractions of natural numbers
and rounds once, to the nearest pattern and to the even mantissa in the middle.

## Main definitions

* `Double.ofRatio` : the nearest double to a fraction.
* `Double.ofInt` : the nearest double to an integer.
* `Double.scaleTen?` : a product or quotient with a power of ten, each step rounded.
-/

namespace Schemata

/-- A number of the 64-bit binary interchange format, held as its bit pattern. -/
structure Double where
  bits : UInt64
deriving DecidableEq, Repr, Inhabited

namespace Double

/-- The sign bit. -/
def negative (d : Double) : Bool :=
  Nat.pow 2 63 ≤ d.bits.toNat

/-- The eleven bits of the biased exponent. -/
def exponentField (d : Double) : Nat :=
  d.bits.toNat / Nat.pow 2 52 % Nat.pow 2 11

/-- The fifty-two bits of the fraction. -/
def fractionField (d : Double) : Nat :=
  d.bits.toNat % Nat.pow 2 52

/-- All exponent bits set: an infinity or no number at all. -/
def isSpecial (d : Double) : Bool :=
  d.exponentField = 2047

/-- Neither an infinity nor "not a number". -/
def isFinite (d : Double) : Bool :=
  !d.isSpecial

/-- An exponent field of ones with a fraction: not a number. -/
def isNaN (d : Double) : Bool :=
  d.isSpecial && d.fractionField != 0

/-- The integer mantissa of a finite number. -/
def mantissa (d : Double) : Nat :=
  if d.exponentField = 0 then d.fractionField else Nat.pow 2 52 + d.fractionField

/-- The power of two that scales the mantissa of a finite number. -/
def exponent (d : Double) : Int :=
  if d.exponentField = 0 then -1074 else (d.exponentField : Int) - 1075

/-- The numerator of the absolute value of a finite number. -/
def numerator (d : Double) : Nat :=
  d.mantissa * Nat.pow 2 d.exponent.toNat

/-- The denominator of the absolute value of a finite number. -/
def denominator (d : Double) : Nat :=
  Nat.pow 2 (-d.exponent).toNat

/-- A finite number without a fractional part. -/
def isWhole (d : Double) : Bool :=
  d.isFinite && d.numerator % d.denominator = 0

/-- Assembles a bit pattern from a sign and the other 63 bits. -/
def ofFields (negative : Bool) (magnitude : Nat) : Double :=
  ⟨UInt64.ofNat (if negative then Nat.pow 2 63 + magnitude else magnitude)⟩

/-- The magnitude bits of an infinity. -/
def infinityMagnitude : Nat :=
  2047 * Nat.pow 2 52

/-- `num / den` rounded to the nearest integer, a half to the even neighbour. -/
def roundDiv (num den : Nat) : Nat :=
  let quotient := num / den
  let rest := 2 * (num % den)
  if den < rest ∨ (rest = den ∧ quotient % 2 = 1) then quotient + 1 else quotient

/-- `num / (den · 2 ^ exponent)` rounded to the nearest integer. -/
def roundAt (num den : Nat) (exponent : Int) : Nat :=
  roundDiv (num * Nat.pow 2 (-exponent).toNat) (den * Nat.pow 2 exponent.toNat)

/-- The exponent at which the mantissa of `num / den` has 53 bits, or the least exponent. -/
def targetExponent (num den : Nat) : Int :=
  let guess : Int := (num.log2 : Int) - den.log2 - 52
  let tooSmall := num * Nat.pow 2 (-guess).toNat < den * Nat.pow 2 guess.toNat * Nat.pow 2 52
  max (-1074) (if tooSmall then guess - 1 else guess)

/-- The magnitude bits of the double nearest to `num / den`. -/
def magnitudeOfRatio (num den : Nat) : Nat :=
  if num = 0 then 0
  else
    let exponent := targetExponent num den
    let mantissa := roundAt num den exponent
    -- The leading bit of a mantissa counts into the exponent field, and so does a carry.
    min ((exponent + 1074).toNat * Nat.pow 2 52 + mantissa) infinityMagnitude

/-- The double nearest to `± num / den`; infinite when out of range. -/
def ofRatio (negative : Bool) (num den : Nat) : Double :=
  ofFields negative (magnitudeOfRatio num den)

/-- The double nearest to an integer. -/
def ofInt (n : Int) : Double :=
  ofRatio (n < 0) n.natAbs 1

/-- The double nearest to a power of ten. -/
def powerOfTen (k : Nat) : Double :=
  ofRatio false (Nat.pow 10 k) 1

/-- The rounded product of a finite number with a positive finite one. -/
def mulBy (d factor : Double) : Double :=
  ofRatio d.negative (d.numerator * factor.numerator) (d.denominator * factor.denominator)

/-- The rounded quotient of a finite number by a positive finite one. -/
def divBy (d divisor : Double) : Double :=
  ofRatio d.negative (d.numerator * divisor.denominator) (d.denominator * divisor.numerator)

/-- The same number with the other sign. -/
def neg (d : Double) : Double :=
  ofFields (!d.negative) (d.bits.toNat % Nat.pow 2 63)

/-- Divides by `10 ^ k`, at most 308 powers a step, each step rounded. -/
def unscaleTen (d : Double) (k : Nat) : Double :=
  if 308 < k then
    if d.mantissa = 0 then d else (d.divBy (powerOfTen 308)).unscaleTen (k - 308)
  else d.divBy (powerOfTen k)
termination_by k
decreasing_by omega

/-- Multiplies by `10 ^ exponent`, or divides when the exponent is negative, with a rounding after
every step; none when the result is too large. -/
def scaleTen? (d : Double) (exponent : Int) : Option Double :=
  if exponent < 0 then some (d.unscaleTen exponent.natAbs)
  else if 308 < exponent then if d.mantissa = 0 then some d else none
  else
    let product := d.mulBy (powerOfTen exponent.toNat)
    if product.isFinite then some product else none

/-- The sixteen hexadecimal digits of the bit pattern. -/
def toHex (d : Double) : String :=
  let digits := Nat.toDigits 16 d.bits.toNat
  String.ofList (List.replicate (16 - digits.length) '0' ++ digits)

end Double

end Schemata
