import Rover.Binary64.Arithmetic
import Rover.Decimal.Basic
import Rover.Json.Value

/-!
# What a written number means

A whole number is exact. A number with a fraction is taken from its leading digits, as many
as one 64-bit word holds, which are rounded once and then multiplied or divided by a power
of ten, which rounds again. So the result can differ from the nearest number in its last
digits.
-/

namespace Rover.Json

/-- The greatest value of a 64-bit word. -/
def wordMax : Nat := 0xffffffffffffffff

/-- Appends digits to a word until one would not fit, and gives the digits from there on. -/
def gather (word : Nat) : List Char → Nat × List Char
  | [] => (word, [])
  | digit :: rest =>
    let next := 10 * word + digitValue digit
    if next ≤ wordMax then gather next rest else (word, digit :: rest)

/-- The number nearest to a power of ten. -/
def powerOfTen (exponent : Nat) : Binary64 := .ofNat (tenTo exponent)

/-- The greatest power of ten that one multiplication or division applies. -/
def greatestPower : Nat := 308

/-- Divides by a power of ten. A greater power than the greatest one is applied in several
divisions, which end early at zero. -/
def shrink (value : Binary64) (exponent : Nat) : Binary64 :=
  if _small : exponent ≤ greatestPower then value.div (powerOfTen exponent)
  else if value.sameNumber .zero then value
  else shrink (value.div (powerOfTen greatestPower)) (exponent - greatestPower)
termination_by exponent
decreasing_by
  simp only [greatestPower] at *
  omega

/-- Multiplies by a power of ten, unless the result is beyond every finite number. -/
def grow (value : Binary64) (exponent : Nat) : Option Binary64 :=
  if exponent ≤ greatestPower then
    let product := value.mul (powerOfTen exponent)
    if product.isFinite then some product else none
  else if value.sameNumber .zero then some value
  else none

/-- A significand of at most one word at a power of ten. -/
def scale (negative : Bool) (significand : Nat) (exponent : Int) : Option Binary64 :=
  let start := Binary64.ofNat significand
  let magnitude :=
    if 0 ≤ exponent then grow start exponent.toNat
    else some (shrink start (-exponent).toNat)
  magnitude.map fun value => if negative then value.negate else value

namespace Numeral

/-- The power of ten that the exponent of a written number names. -/
def power (numeral : Numeral) : Int :=
  match numeral.exponent with
  | none => 0
  | some (negative, digits) =>
    if negative then -(ofDigits digits : Int) else ofDigits digits

/-- The number with a fraction that a written number means, if it is not too great. Whole
digits beyond the word count as powers of ten; fraction digits beyond it are dropped. -/
def toBinary64? (numeral : Numeral) : Option Binary64 :=
  let (head, wholeRest) := gather 0 numeral.whole
  let (significand, fractionRest) := gather head numeral.fraction
  let taken := numeral.fraction.length - fractionRest.length
  scale numeral.negative significand ((wholeRest.length : Int) - taken + numeral.power)

/-- The whole number that a written number is: one without point, exponent and negative
zero. -/
def toInt? (numeral : Numeral) : Option Int :=
  if numeral.fraction ≠ [] ∨ numeral.exponent ≠ none then none
  else
    let magnitude := ofDigits numeral.whole
    if numeral.negative then
      if magnitude = 0 then none else some (-(magnitude : Int))
    else some magnitude

end Numeral

end Rover.Json
