/-!
# Fractions of limited precision

Fractions are held with the precision of a binary significand of 53 bits and an
exponent from -1074 to 971. A result that has not that form is replaced by the
nearest number that has, and of two equally near ones by the one with the even
significand. No number stands for what is too large.

To multiply a number with a power of ten, it is multiplied with or divided by the
number nearest to that power, so that the result is rounded once more. The
largest power that there is such a number for is the one with the exponent 308,
and a division by a larger one takes several steps.

Such a number is written with the fewest decimal digits that stand for it, and
if that leaves a choice, with those nearest to it.
-/

namespace SqlDialect

/-- A significand and the power of two that it is multiplied with. -/
structure BinaryFraction where
  significand : Nat
  exponent : Int
  deriving DecidableEq

/-- A quotient rounded to a whole number, halves to the even one. -/
def roundQuotient (numerator denominator : Nat) : Nat :=
  let whole := numerator / denominator
  let remainder := numerator % denominator
  if 2 * remainder < denominator then whole
  else if denominator < 2 * remainder then whole + 1
  else whole + whole % 2

/-- The quotient of two whole numbers after a division by a power, as a pair of a
numerator and a denominator. -/
def dividePower
    (numerator denominator base : Nat)
    (exponent : Int) : Nat × Nat :=
  if exponent < 0 then
    (numerator * base.pow (-exponent).toNat, denominator)
  else
    (numerator, denominator * base.pow exponent.toNat)

namespace BinaryFraction

/-- The number nearest to the quotient of two whole numbers, of which the second
is positive. The bound of the exponents is not looked at. -/
def nearest (numerator denominator : Nat) : BinaryFraction :=
  let lowest : Int :=
    max (-1074) ((Nat.log2 numerator : Int) - Nat.log2 denominator - 53)
  let withExponent (exponent : Int) : BinaryFraction :=
    let quotient := dividePower numerator denominator 2 exponent
    ⟨roundQuotient quotient.1 quotient.2, exponent⟩
  let candidates := [lowest, lowest + 1, lowest + 2].map withExponent
  (candidates.find? fun candidate => candidate.significand < Nat.pow 2 53).getD
    (withExponent lowest)

/-- The number as a quotient of whole numbers. -/
def quotient (fraction : BinaryFraction) : Nat × Nat :=
  dividePower fraction.significand 1 2 (-fraction.exponent)

/-- Whether a number is not too large to be held. -/
def inRange (fraction : BinaryFraction) : Bool :=
  fraction.exponent ≤ 971

/-- The number nearest to the product of two numbers. -/
def product (left right : BinaryFraction) : BinaryFraction :=
  let exact :=
    dividePower (left.significand * right.significand) 1 2
      (-(left.exponent + right.exponent))
  nearest exact.1 exact.2

/-- The number nearest to the quotient of two numbers. -/
def dividedBy (left right : BinaryFraction) : BinaryFraction :=
  let exact :=
    dividePower left.significand right.significand 2
      (right.exponent - left.exponent)
  nearest exact.1 exact.2

/-- The exponent of the largest power of ten that can be held. -/
def largestPower : Nat := 308

/-- The number nearest to a power of ten. -/
def powerOfTen (power : Nat) : BinaryFraction :=
  nearest (Nat.pow 10 power) 1

/-- A number divided by a power of ten, step by step. -/
def scaledDown (fraction : BinaryFraction) (power : Nat) : BinaryFraction :=
  if fraction.significand = 0 then
    fraction
  else if largestPower < power then
    scaledDown (fraction.dividedBy (powerOfTen largestPower)) (power - largestPower)
  else
    fraction.dividedBy (powerOfTen power)
termination_by power
decreasing_by
  simp only [largestPower] at *
  omega

/-- A number multiplied with a power of ten, if the product is not too large. -/
def scaled? (fraction : BinaryFraction) (power : Int) : Option BinaryFraction :=
  if power < 0 then
    some (fraction.scaledDown (-power).toNat)
  else if fraction.significand = 0 then
    some fraction
  else if largestPower < power then
    none
  else
    let product := fraction.product (powerOfTen power.toNat)
    if product.inRange then some product else none

end BinaryFraction

/-- The number of decimal digits before the point; below one it is the number of
zeros after the point, taken negative. -/
def pointPlace (numerator denominator : Nat) : Int :=
  if denominator ≤ numerator then
    (Nat.toDigits 10 (numerator / denominator)).length
  else
    -(((List.range 400).find? fun zeros =>
      denominator ≤ numerator * Nat.pow 10 (zeros + 1)).getD 0 : Nat)

/-- Digits that stand for a number, together with a power of ten, if some of a
given count do: those just below it or those just above it. -/
def digitsOfCount?
    (fraction : BinaryFraction)
    (count : Nat) : Option (Nat × Int) :=
  let exact := fraction.quotient
  let power := pointPlace exact.1 exact.2 - count
  let scaled := dividePower exact.1 exact.2 10 power
  let standsFor (digits : Nat) : Bool :=
    let value := dividePower digits 1 10 (-power)
    digits ≠ 0 && BinaryFraction.nearest value.1 value.2 = fraction
  let below := scaled.1 / scaled.2
  let nearer := roundQuotient scaled.1 scaled.2
  let other := if nearer = below then below + 1 else below
  ([nearer, other].find? standsFor).map fun digits => (digits, power)

/-- The fewest decimal digits that stand for a number, and a power of ten. For
zero that is no digit. -/
def shortestDigits (fraction : BinaryFraction) : Nat × Int :=
  ((List.range 17).findSome? fun fewer =>
    digitsOfCount? fraction (fewer + 1)).getD (0, 0)

end SqlDialect
