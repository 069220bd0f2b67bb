import Rover.Power
import Rover.Rounding

/-!
# Numbers of the 64-bit binary format

A magnitude is known by its rank, its place in the ascending list of all magnitudes:
zero has rank 0 and infinity the last rank. Comparing two magnitudes is comparing their
ranks. The value of a rank is a whole number of units, the unit being the smallest
magnitude above zero, so all arithmetic can be exact on whole numbers and round once.
-/

namespace Rover

/-- How many ranks a binade has: two to the power 52. -/
def binadeSize : Nat := 0x10000000000000

/-- The rank of infinity, and so the number of finite magnitudes: 2047 binades. -/
def infinityRank : Nat := 0x7ff0000000000000

/-- The place of a magnitude in the ascending list of all magnitudes. -/
abbrev Rank := Fin (infinityRank + 1)

/-- The binary exponent of the unit, without its sign. -/
def unitExponent : Nat := 1074

/-- How many units make one: the unit is 2 to the power -1074. -/
def unitsPerOne : Nat := twoTo unitExponent

theorem unitsPerOne_pos : 0 < unitsPerOne := twoTo_pos unitExponent

namespace Rank

/-- The rank of zero. -/
def zero : Rank := ⟨0, Nat.succ_pos infinityRank⟩

/-- The rank of infinity. -/
def infinity : Rank := Fin.last infinityRank

/-- The magnitude of a rank in units. Within a binade the ranks are evenly spaced, and
the spacing doubles from each binade to the next. For infinity it is the value that the
next finite magnitude would have. -/
def units (rank : Rank) : Nat :=
  let binade := rank.val / binadeSize
  let fraction := rank.val % binadeSize
  if binade = 0 then fraction else (fraction + binadeSize) * twoTo (binade - 1)

/-- The rank nearest to `numerator / denominator` units, a half going to the even
neighbour. All that lies half a step or more above the last finite magnitude is infinity. -/
def nearest (numerator denominator : Nat) : Rank :=
  let shift := (numerator / denominator).log2 - 52
  let significand := Tie.toEven.round numerator (denominator * twoTo shift)
  ⟨min (shift * binadeSize + significand) infinityRank,
    Nat.lt_succ_of_le (Nat.min_le_right _ _)⟩

end Rank

/-- A number of the format: a magnitude with a sign, so that zero has two forms, or the
one value that stands for no number. -/
inductive Binary64 where
  | nan
  | number (negative : Bool) (rank : Rank)
  deriving DecidableEq

namespace Binary64

/-- Positive zero. -/
def zero : Binary64 := .number false .zero

/-- Negative zero, the neutral start of a sum: adding it changes no number. -/
def negativeZero : Binary64 := .number true .zero

/-- Infinity with the given sign. -/
def infinity (negative : Bool) : Binary64 := .number negative .infinity

instance : Inhabited Binary64 := ⟨zero⟩

/-- The number nearest to a signed fraction. -/
def ofRatio (negative : Bool) (numerator denominator : Nat) : Binary64 :=
  .number negative (.nearest (numerator * unitsPerOne) denominator)

/-- The number nearest to a natural number. -/
def ofNat (value : Nat) : Binary64 := ofRatio false value 1

/-- The number nearest to an integer. -/
def ofInt (value : Int) : Binary64 := ofRatio (decide (value < 0)) value.natAbs 1

/-- Whether the value stands for no number. -/
def isNaN : Binary64 → Bool
  | .nan => true
  | .number _ _ => false

/-- Whether the value is a number other than the two infinities. -/
def isFinite : Binary64 → Bool
  | .nan => false
  | .number _ rank => decide (rank < .infinity)

/-- The same magnitude with the other sign. -/
def negate : Binary64 → Binary64
  | .nan => .nan
  | .number negative rank => .number (!negative) rank

/-- The place on the number line, negative numbers below zero; both zeros share place 0. -/
def place (negative : Bool) (rank : Rank) : Int :=
  if negative then -(rank.val : Int) else rank.val

/-- Numeric order. A comparison with `nan` is false. -/
def atMost : Binary64 → Binary64 → Bool
  | .number negative rank, .number negative' rank' =>
    decide (place negative rank ≤ place negative' rank')
  | _, _ => false

/-- Strict numeric order. A comparison with `nan` is false. -/
def below : Binary64 → Binary64 → Bool
  | .number negative rank, .number negative' rank' =>
    decide (place negative rank < place negative' rank')
  | _, _ => false

/-- Numeric equality: the two zeros are equal, and `nan` equals nothing. -/
def sameNumber (left right : Binary64) : Bool := left.atMost right && right.atMost left

instance : LE Binary64 := ⟨fun left right => left.atMost right = true⟩

instance : LT Binary64 := ⟨fun left right => left.below right = true⟩

instance (left right : Binary64) : Decidable (left ≤ right) :=
  inferInstanceAs (Decidable (left.atMost right = true))

instance (left right : Binary64) : Decidable (left < right) :=
  inferInstanceAs (Decidable (left.below right = true))

@[simp] theorem number_le_number (negative negative' : Bool) (rank rank' : Rank) :
    Binary64.number negative rank ≤ .number negative' rank' ↔
      place negative rank ≤ place negative' rank' := by
  simp [LE.le, atMost]

@[simp] theorem number_lt_number (negative negative' : Bool) (rank rank' : Rank) :
    Binary64.number negative rank < .number negative' rank' ↔
      place negative rank < place negative' rank' := by
  simp [LT.lt, below]

@[simp] theorem not_nan_le (value : Binary64) : ¬ Binary64.nan ≤ value := by
  simp [LE.le, atMost]

@[simp] theorem not_le_nan (value : Binary64) : ¬ value ≤ Binary64.nan := by
  cases value <;> simp [LE.le, atMost]

/-- The smaller of two values. `nan` gives way to the other value, and of two equal
values, such as the two zeros, the second is taken. -/
def least (left right : Binary64) : Binary64 :=
  if left.isNaN || right.atMost left then right else left

/-- The greater of two values. `nan` gives way to the other value, and of two equal
values, such as the two zeros, the second is taken. -/
def greatest (left right : Binary64) : Binary64 :=
  if left.isNaN || left.atMost right then right else left

/-- The interchange encoding: the sign in the top bit and the rank below it. The value
that stands for no number has one encoding here, the quiet positive one. -/
def toBits : Binary64 → Nat
  | .nan => 0x7ff8000000000000
  | .number negative rank => (if negative then 0x8000000000000000 else 0) + rank.val

end Binary64

end Rover
