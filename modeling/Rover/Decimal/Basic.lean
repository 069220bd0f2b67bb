import Rover.Binary64.Basic

/-!
# Decimal fractions

A decimal is a whole significand at a power of ten. It has an exact value, and
`Decimal.toBinary64` is the number of the binary format nearest to that value.
-/

namespace Rover

/-- The value of a decimal digit character; other characters have no meaning here. -/
def digitValue (char : Char) : Nat := char.toNat - '0'.toNat

/-- The value of a row of decimal digits, the first one leading. -/
def ofDigits (digits : List Char) : Nat := Nat.ofDigitChars 10 digits 0

/-- The number of decimal digits of a natural number; zero has one. -/
def digitCount (value : Nat) : Nat :=
  if value < 10 then 1 else digitCount (value / 10) + 1
termination_by value

/-- The decimal digits of a natural number, the first one leading. -/
def digits (value : Nat) : List Char := Nat.toDigits 10 value

@[simp] theorem ofDigits_digits (value : Nat) : ofDigits (digits value) = value :=
  Nat.ofDigitChars_ten_toDigits

theorem isDigit_of_mem_digits {char : Char} {value : Nat} (member : char ∈ digits value) :
    char.isDigit = true :=
  Nat.isDigit_of_mem_toDigits (by decide) (by decide) member

@[simp] theorem digits_ne_nil (value : Nat) : digits value ≠ [] := Nat.toDigits_ne_nil

/-- A signed whole significand at a power of ten. -/
structure Decimal where
  negative : Bool
  significand : Nat
  exponent : Int
  deriving DecidableEq, Repr

namespace Decimal

/-- The nearest number of the binary format. A value of at least ten to the power 311 is
beyond every finite number and one below ten to the power -330 is nearest to zero; both are
settled without computing the power, which could be as large as an entry says. -/
def toBinary64 (decimal : Decimal) : Binary64 :=
  if decimal.significand = 0 then .number decimal.negative .zero
  else if 310 < decimal.exponent then .infinity decimal.negative
  else if decimal.exponent + (decimal.significand.log2 + 1 : Nat) < -330 then
    .number decimal.negative .zero
  else if 0 ≤ decimal.exponent then
    .ofRatio decimal.negative (decimal.significand * tenTo decimal.exponent.toNat) 1
  else
    .ofRatio decimal.negative decimal.significand (tenTo (-decimal.exponent).toNat)

end Decimal

end Rover
