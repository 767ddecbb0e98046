import SqlDialect.Json.Binary

/-!
# JSON numbers

A number is an integer or a fraction. It keeps the distinction that its text
makes: a number with a point or an exponent is a fraction, even if its value is
whole. A whole number that does not fit into 64 bits is a fraction too, and so is
zero with a minus.

Of the digits of a number as many count as make up a whole number below 2 ^ 64.
The first of the digits before the point that does not count, and all after it
up to the point, only raise the power of ten that the number is multiplied with;
of the digits after the point all that follow one that does not count are left
out. The number is made of these digits and of the power of ten at the precision
that fractions have.

The text of a fraction is positional unless the number is very large or very
small. Then it has one digit before the point, and an exponent that always has a
sign.
-/

namespace SqlDialect

/-- A decimal fraction: its digits, as a whole number, and the power of ten that
they are multiplied with. -/
structure Decimal where
  negative : Bool
  digits : Nat
  exponent : Int
  deriving DecidableEq

/-- A number of a JSON value. -/
inductive JsonNumber
  | integer (value : Int)
  | fraction (value : Decimal)
  deriving DecidableEq

/-- Drop the zeros at the end of some digits. -/
def dropTrailingZeros (digits : List Char) : List Char :=
  (digits.reverse.dropWhile fun digit => digit = '0').reverse

/-- The text of the power of ten after a number. -/
def exponentText (power : Int) : List Char :=
  if power < 0 then
    'e' :: (toString power).toList
  else
    'e' :: '+' :: (toString power).toList

/-- The text of a positive fraction, given its digits without zeros at either
end and the place of the point, counted from before the first digit. -/
def fractionText (digits : List Char) (point : Int) : List Char :=
  if point ≤ -5 || 16 < point then
    let exponent := exponentText (point - 1)
    match digits with
    | [digit] => digit :: exponent
    | digit :: rest => digit :: '.' :: (rest ++ exponent)
    | [] => exponent
  else if point ≤ 0 then
    '0' :: '.' :: (List.replicate (-point).toNat '0' ++ digits)
  else
    let whole := digits.take point.toNat
    let part := digits.drop point.toNat
    whole ++ List.replicate (point.toNat - whole.length) '0' ++
      '.' :: (if part.isEmpty then ['0'] else part)

namespace Decimal

/-- The text of a decimal fraction. -/
def text (decimal : Decimal) : String :=
  let all := Nat.toDigits 10 decimal.digits
  let significant := dropTrailingZeros all
  let unsigned :=
    if decimal.digits = 0 then
      ['0', '.', '0']
    else
      fractionText significant (decimal.exponent + all.length)
  String.ofList (if decimal.negative then '-' :: unsigned else unsigned)

end Decimal

/-- The fraction with some digits, multiplied with a power of ten, at the
precision that fractions have, if it is not too large. -/
def Decimal.rounded?
    (negative : Bool)
    (digits : Nat)
    (exponent : Int) : Option Decimal :=
  ((BinaryFraction.nearest digits 1).scaled? exponent).map fun fraction =>
    let shortest := shortestDigits fraction
    ⟨negative, shortest.1, shortest.2⟩

/-- Append digits to a whole number up to the first that does not count. The
result comes with the number of digits that are left. -/
def appendDigits (number : Nat) : List Nat → Nat × Nat
  | [] => (number, 0)
  | digit :: digits =>
      if number * 10 + digit < Nat.pow 2 64 then
        appendDigits (number * 10 + digit) digits
      else
        (number, digits.length + 1)

namespace JsonNumber

/-- The number without a point or an exponent that has some digits. -/
def ofWhole? (negative : Bool) (whole : List Nat) : Option JsonNumber :=
  let (digits, left) := appendDigits 0 whole
  if left = 0 && !negative then
    some (.integer digits)
  else if left = 0 && 0 < digits && digits ≤ Nat.pow 2 63 then
    some (.integer (-digits))
  else
    (Decimal.rounded? negative digits left).map fraction

/-- The number with some digits before and some after the point, multiplied with
a power of ten, if it is not too large. -/
def ofParts?
    (negative : Bool)
    (whole part : List Nat)
    (exponent : Int) : Option JsonNumber :=
  let (wholeDigits, wholeLeft) := appendDigits 0 whole
  let (digits, partLeft) := appendDigits wholeDigits part
  let places := part.length - partLeft
  (Decimal.rounded? negative digits (exponent + wholeLeft - places)).map fraction

/-- The text of a number. -/
def text : JsonNumber → String
  | integer value => toString value
  | fraction value => value.text

end JsonNumber

end SqlDialect
