import Rover.Decimal.Basic

/-!
# Reading numerals

The grammar of an entered number with a fraction: an optional sign, digits with an
optional point and at least one digit on either side of it, and an optional exponent; or,
after the optional sign, one of the words for infinity and for no number, in any case.
The result is correctly rounded, because the decimal is read exactly.
-/

namespace Rover

/-- Splits a text after its leading decimal digits. -/
def spanDigits (chars : List Char) : List Char × List Char :=
  (chars.takeWhile Char.isDigit, chars.dropWhile Char.isDigit)

/-- Splits off a leading sign; without one the value is not negative. -/
def readSign : List Char → Bool × List Char
  | '-' :: rest => (true, rest)
  | '+' :: rest => (false, rest)
  | chars => (false, chars)

/-- A whole text of one or more decimal digits. -/
def readDigits (chars : List Char) : Option Nat :=
  if chars ≠ [] ∧ chars.all Char.isDigit then some (ofDigits chars) else none

namespace Decimal

/-- What follows the digits of a numeral: nothing, or a power of ten. -/
def readExponent : List Char → Option Int
  | [] => some 0
  | char :: rest =>
    if char = 'e' ∨ char = 'E' then
      let (negative, rest) := readSign rest
      (readDigits rest).map fun (value : Nat) => if negative then -(value : Int) else value
    else none

/-- The digits after a leading point, and what follows them. -/
def readFraction : List Char → List Char × List Char
  | '.' :: rest => spanDigits rest
  | chars => ([], chars)

/-- Reads a numeral that has lost its sign. -/
def read (negative : Bool) (chars : List Char) : Option Decimal :=
  let (whole, rest) := spanDigits chars
  let (fraction, rest) := readFraction rest
  if whole = [] ∧ fraction = [] then none
  else (readExponent rest).map fun exponent =>
    { negative
      significand := ofDigits (whole ++ fraction)
      exponent := exponent - fraction.length }

end Decimal

namespace Binary64

/-- Reads a number or one of the words for the special values. -/
def read (chars : List Char) : Option Binary64 :=
  let (negative, rest) := readSign chars
  let word := rest.map Char.toLower
  if word = "inf".toList ∨ word = "infinity".toList then some (infinity negative)
  else if word = "nan".toList then some nan
  else (Decimal.read negative rest).map Decimal.toBinary64

end Binary64

end Rover
