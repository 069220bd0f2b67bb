/-!
# Rounding a quotient to a whole number

One rounding rule serves every place where an exact value has to become a whole
number of something: the nearest one wins, and a half goes where the tie rule says.
-/

namespace Rover

/-- Where a value half-way between two whole numbers goes. -/
inductive Tie where
  | toEven
  | up
  deriving DecidableEq, Repr

namespace Tie

/-- Whether a half above `whole` becomes `whole + 1`. -/
def raises (tie : Tie) (whole : Nat) : Bool :=
  match tie with
  | .toEven => whole % 2 == 1
  | .up => true

/-- The whole number nearest to `numerator / denominator`. -/
def round (tie : Tie) (numerator denominator : Nat) : Nat :=
  let whole := numerator / denominator
  let rest := numerator % denominator
  if 2 * rest < denominator then whole
  else if denominator < 2 * rest then whole + 1
  else if tie.raises whole then whole + 1
  else whole

/-- A quotient without a remainder is not changed by rounding. -/
theorem round_mul (tie : Tie) (whole denominator : Nat) (positive : 0 < denominator) :
    tie.round (whole * denominator) denominator = whole := by
  simp [round, Nat.mul_div_cancel _ positive, positive]

@[simp] theorem round_one (tie : Tie) (whole : Nat) : tie.round whole 1 = whole := by
  simp [round, Nat.mod_one]

/-- The rounded value is at most half a unit above the quotient. -/
theorem round_le (tie : Tie) (numerator denominator : Nat) (positive : 0 < denominator) :
    2 * (tie.round numerator denominator * denominator) ≤ 2 * numerator + denominator := by
  have split := Nat.div_add_mod numerator denominator
  have commuted := Nat.mul_comm denominator (numerator / denominator)
  simp only [round]
  split
  · omega
  · split
    · rw [Nat.add_mul]; omega
    · split
      · rw [Nat.add_mul]; omega
      · omega

/-- The rounded value is at most half a unit below the quotient. -/
theorem le_round (tie : Tie) (numerator denominator : Nat) (positive : 0 < denominator) :
    2 * numerator ≤ 2 * (tie.round numerator denominator * denominator) + denominator := by
  have split := Nat.div_add_mod numerator denominator
  have commuted := Nat.mul_comm denominator (numerator / denominator)
  have bound := Nat.mod_lt numerator positive
  simp only [round]
  split
  · omega
  · split
    · rw [Nat.add_mul]; omega
    · split
      · rw [Nat.add_mul]; omega
      · omega

/-- Rounding keeps the order, since two roundings that crossed would be of the same half. -/
theorem round_mono (tie : Tie) {numerator numerator' denominator : Nat}
    (positive : 0 < denominator) (ordered : numerator ≤ numerator') :
    tie.round numerator denominator ≤ tie.round numerator' denominator := by
  apply Nat.le_of_not_lt
  intro crossed
  have up := tie.round_le numerator denominator positive
  have down := tie.le_round numerator' denominator positive
  have next := Nat.mul_le_mul_right denominator crossed
  rw [Nat.succ_mul] at next
  have same : numerator = numerator' := by omega
  rw [same] at crossed
  exact Nat.lt_irrefl _ crossed

end Tie

end Rover
