import Rover.Proofs.Binary64.Whole
import Rover.Proofs.Json.Meaning

/-!
# Scaling by powers of ten

The reader divides the digits of a number by a power of ten. The powers up to the 22nd are on the
grid, so a division by them rounds only once if the digits are on the grid too. In any case it makes
no number greater, and none greater than one that was not above the power.
-/

namespace Rover

namespace Rank

theorem tenTo_eq_mul (exponent : Nat) : tenTo exponent = 5 ^ exponent * twoTo exponent :=
  Nat.mul_pow 5 2 exponent

/-- Small multiples of the powers of ten are on the grid. -/
theorem units_ofNat_mul_tenTo {value exponent : Nat}
    (fits : value * 5 ^ exponent ≤ 2 * binadeSize) (small : exponent ≤ 970) :
    (ofNat (value * tenTo exponent)).units = value * tenTo exponent * unitsPerOne := by
  rw [tenTo_eq_mul, ← Nat.mul_assoc]
  exact (units_ofNat_mul_twoTo fits small).1

theorem units_ofNat_tenTo {exponent : Nat} (small : exponent ≤ 22) :
    (ofNat (tenTo exponent)).units = tenTo exponent * unitsPerOne := by
  have power : 5 ^ exponent ≤ 5 ^ 22 := Nat.pow_le_pow_right (by decide) small
  have fits : 1 * 5 ^ exponent ≤ 2 * binadeSize := by
    rw [Nat.one_mul]
    exact Nat.le_trans power (by decide)
  have units := units_ofNat_mul_tenTo fits (by omega)
  rwa [Nat.one_mul] at units

theorem ofNat_tenTo_lt_infinity {exponent : Nat} (small : exponent ≤ Json.greatestPower) :
    ofNat (tenTo exponent) < .infinity := by
  have last : ofNat (tenTo Json.greatestPower) < .infinity := by decide +kernel
  exact Fin.lt_of_le_of_lt (ofNat_le_ofNat (tenTo_le_tenTo small)) last

theorem unitsPerOne_le_units_tenTo (exponent : Nat) :
    unitsPerOne ≤ (ofNat (tenTo exponent)).units := by
  have one : (ofNat 1).units = unitsPerOne := (units_ofNat (by decide)).trans (Nat.one_mul _)
  rw [← one]
  exact units_le_units.mpr (ofNat_le_ofNat (tenTo_pos exponent))

end Rank

namespace Binary64

theorem div_number {negative negative' : Bool} {rank rank' : Rank} (finite : rank ≠ .infinity)
    (finite' : rank' ≠ .infinity) (nonzero : rank' ≠ .zero) :
    (number negative rank).div (number negative' rank') =
      number (negative != negative') (.nearest (rank.units * unitsPerOne) rank'.units) := by
  simp only [div, if_neg finite, if_neg finite', if_neg nonzero]

end Binary64

namespace Json

variable {rank : Rank} {exponent : Nat}

theorem div_powerOfTen (finite : rank ≠ .infinity) (small : exponent ≤ greatestPower) :
    (Binary64.number false rank).div (powerOfTen exponent) =
      .number false (.nearest (rank.units * unitsPerOne) (Rank.ofNat (tenTo exponent)).units) := by
  apply Binary64.div_number finite (Fin.ne_of_lt (Rank.ofNat_tenTo_lt_infinity small))
  intro isZero
  have least := Rank.unitsPerOne_le_units_tenTo exponent
  rw [isZero] at least
  exact absurd unitsPerOne_pos (Nat.not_lt.mpr least)

theorem shrink_small (finite : rank ≠ .infinity) (small : exponent ≤ greatestPower) :
    shrink (.number false rank) exponent =
      .number false (.nearest (rank.units * unitsPerOne) (Rank.ofNat (tenTo exponent)).units) := by
  rw [shrink, dif_pos small, div_powerOfTen finite small]

/-- Digits and a power of ten on the grid are divided with one rounding. -/
theorem shrink_exact {value : Nat} (fits : value ≤ 2 * binadeSize) (small : exponent ≤ 22) :
    shrink (.ofNat value) exponent =
      .number false (.nearest (value * unitsPerOne) (tenTo exponent)) := by
  have power : exponent ≤ greatestPower := Nat.le_trans small (by decide)
  have positive : 0 < (Rank.ofNat (tenTo exponent)).units :=
    Nat.lt_of_lt_of_le unitsPerOne_pos (Rank.unitsPerOne_le_units_tenTo exponent)
  have divided := shrink_small (Fin.ne_of_lt (Rank.ofNat_lt_infinity fits)) power
  refine divided.trans ?_
  apply congrArg
  apply Rank.nearest_congr positive (tenTo_pos exponent)
  rw [Rank.units_ofNat fits, Rank.units_ofNat_tenTo small]
  ring

/-- Dividing by a power of ten makes no number greater. -/
theorem shrink_le (finite : rank ≠ .infinity) (exponent : Nat) :
    ∃ rank', shrink (.number false rank) exponent = .number false rank' ∧ rank' ≤ rank := by
  have once : ∀ (rank : Rank) (power : Nat),
      Rank.nearest (rank.units * unitsPerOne) (Rank.ofNat (tenTo power)).units ≤ rank := by
    intro rank power
    have least := Rank.unitsPerOne_le_units_tenTo power
    apply Rank.nearest_le_of_le (Nat.lt_of_lt_of_le unitsPerOne_pos least)
    exact Nat.mul_le_mul_left _ least
  induction exponent using Nat.strongRecOn generalizing rank with
  | ind exponent ih =>
      by_cases small : exponent ≤ greatestPower
      · exact ⟨_, shrink_small finite small, once rank exponent⟩
      · rw [shrink, dif_neg small]
        split
        · exact ⟨rank, rfl, Fin.le_refl _⟩
        · rw [div_powerOfTen finite (Nat.le_refl _)]
          have less := once rank greatestPower
          obtain ⟨rank', result, less'⟩ := ih (exponent - greatestPower)
            (Nat.sub_lt (by omega) (by decide))
            (Fin.ne_of_lt (Fin.lt_of_le_of_lt less (Rank.lt_infinity finite)))
          exact ⟨rank', result, Fin.le_trans less' less⟩

/-- A number that is not above a power of ten is not above one after a division by this power or a
greater one. -/
theorem shrink_le_one {least : Nat} (finite : rank ≠ .infinity)
    (ordered : rank ≤ Rank.ofNat (tenTo least)) (bounded : least ≤ greatestPower)
    (large : least ≤ exponent) :
    ∃ rank', shrink (.number false rank) exponent = .number false rank' ∧
      rank' ≤ Rank.ofNat 1 := by
  have once : ∀ power, least ≤ power →
      Rank.nearest (rank.units * unitsPerOne) (Rank.ofNat (tenTo power)).units ≤
        Rank.ofNat 1 := by
    intro power larger
    have positive := Nat.lt_of_lt_of_le unitsPerOne_pos (Rank.unitsPerOne_le_units_tenTo power)
    apply Rank.nearest_le_of_le positive
    rw [Rank.units_ofNat (by decide), Nat.one_mul, Nat.mul_comm]
    apply Nat.mul_le_mul_left
    exact Rank.units_le_units.mpr
      (Fin.le_trans ordered (Rank.ofNat_le_ofNat (tenTo_le_tenTo larger)))
  by_cases small : exponent ≤ greatestPower
  · exact ⟨_, shrink_small finite small, once exponent large⟩
  · rw [shrink, dif_neg small]
    split
    next zero =>
      rw [Binary64.sameNumber, Bool.and_eq_true] at zero
      have isZero : (rank.val : Int) ≤ 0 := of_decide_eq_true zero.1
      refine ⟨rank, rfl, ?_⟩
      rw [Fin.le_def]
      omega
    next =>
      rw [div_powerOfTen finite (Nat.le_refl _)]
      have less := once greatestPower bounded
      obtain ⟨rank', result, less'⟩ := shrink_le
        (Rank.ne_infinity_of_le less (by decide)) (exponent - greatestPower)
      exact ⟨rank', result, Fin.le_trans less' less⟩

end Json

end Rover
