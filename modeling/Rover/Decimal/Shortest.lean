import Rover.Decimal.Basic

/-!
# The shortest decimal that reads back

A number is written with the fewest significant digits that still read back as the same
number. On the grid of decimals with a given count of digits only the two neighbours of the
value can do so, and of two that do the nearer one is taken.
-/

namespace Rover

namespace Rank

/-- The power of ten of the leading digit of a magnitude above zero. Every finite magnitude
above zero is more than ten to the power -400. -/
def leadingExponent (rank : Rank) : Int :=
  (digitCount (rank.units * tenTo 400 / unitsPerOne) : Int) - 401

/-- The value as a fraction of two natural numbers, in steps of a power of ten. -/
def inSteps (rank : Rank) (exponent : Int) : Nat × Nat :=
  if 0 ≤ exponent then (rank.units, unitsPerOne * tenTo exponent.toNat)
  else (rank.units * tenTo (-exponent).toNat, unitsPerOne)

/-- Whether a positive decimal reads back as the magnitude. -/
def readsBack (rank : Rank) (decimal : Decimal) : Bool :=
  decide (decimal.toBinary64 = .number false rank)

/-- The neighbour of a magnitude, on the grid of a power of ten, that reads back as the
magnitude; of two such the nearer one, and of two at the same distance the one that the
tie rule takes. -/
def onGrid? (rank : Rank) (tie : Tie) (exponent : Int) : Option Decimal :=
  let (numerator, denominator) := rank.inSteps exponent
  let lower : Decimal := ⟨false, numerator / denominator, exponent⟩
  let upper : Decimal := ⟨false, numerator / denominator + 1, exponent⟩
  match rank.readsBack lower, rank.readsBack upper with
  | true, true => some ⟨false, tie.round numerator denominator, exponent⟩
  | true, false => some lower
  | false, true => some upper
  | false, false => none

/-- The exact value as a decimal: a unit is a power of five at a power of ten. -/
def exactly (rank : Rank) : Decimal :=
  ⟨false, rank.units * Nat.pow 5 unitExponent, -unitExponent⟩

/-- The shortest decimal that reads back as a finite magnitude above zero. Seventeen digits
are always enough, so the exact value stands in for the case that cannot arise. -/
def shortest (rank : Rank) (tie : Tie) : Decimal :=
  let leading := rank.leadingExponent
  ((List.range 17).findSome? fun (count : Nat) => rank.onGrid? tie (leading - count)).getD
    rank.exactly

end Rank

end Rover
