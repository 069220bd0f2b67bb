import Rover.Binary64.Arithmetic
import Rover.Proofs.Binary64.Whole

/-!
# The order of numbers

Numbers are compared by their places on the number line, and this is the order of their values.
What is no number is above and below nothing.
-/

namespace Rover.Binary64

/-! ## Values in order -/

section Values

variable {value left right : Binary64}

theorem exists_number (notNan : value ≠ .nan) : ∃ negative rank, value = .number negative rank := by
  cases value with
  | nan => exact absurd rfl notNan
  | number negative rank => exact ⟨negative, rank, rfl⟩

theorem ne_nan_of_le (ordered : left ≤ right) : left ≠ .nan ∧ right ≠ .nan := by
  constructor
  · rintro rfl
    exact not_nan_le right ordered
  · rintro rfl
    exact not_le_nan left ordered

theorem le_self (notNan : value ≠ .nan) : value ≤ value := by
  obtain ⟨negative, rank, rfl⟩ := exists_number notNan
  exact (number_le_number negative negative rank rank).mpr (Int.le_refl _)

/-- Of two numbers one is at most the other. -/
theorem le_total (notNan : left ≠ .nan) (notNan' : right ≠ .nan) : left ≤ right ∨ right ≤ left := by
  obtain ⟨negative, rank, rfl⟩ := exists_number notNan
  obtain ⟨negative', rank', rfl⟩ := exists_number notNan'
  rw [number_le_number, number_le_number]
  exact Int.le_total _ _

theorem not_le_of_lt (less : left < right) : ¬right ≤ left := by
  intro ordered
  obtain ⟨notNan, notNan'⟩ := ne_nan_of_le ordered
  obtain ⟨negative, rank, rfl⟩ := exists_number notNan
  obtain ⟨negative', rank', rfl⟩ := exists_number notNan'
  rw [number_lt_number] at less
  rw [number_le_number] at ordered
  exact Int.not_le.mpr less ordered

/-- Numbers are equal if each is at most the other. -/
theorem sameNumber_iff : left.sameNumber right = true ↔ left ≤ right ∧ right ≤ left := by
  rw [sameNumber, Bool.and_eq_true]
  rfl

end Values

/-! ## Places and units -/

section Units

variable {negative negative' : Bool} {rank rank' : Rank}

theorem units_eq_zero_iff : rank.units = 0 ↔ rank.val = 0 := by
  have least : rank.units ≤ Rank.zero.units ↔ rank ≤ .zero := Rank.units_le_units
  have noUnits : Rank.zero.units = 0 := rfl
  rw [noUnits, Fin.le_def] at least
  exact Nat.le_zero.symm.trans (least.trans Nat.le_zero)

/-- A value above another one has the place above. Infinity is no exception, as its units go on
from those of the last finite magnitude. -/
theorem place_le_place_iff :
    place negative rank ≤ place negative' rank' ↔
      signedUnits negative rank ≤ signedUnits negative' rank' := by
  have upward : rank.units ≤ rank'.units ↔ rank.val ≤ rank'.val := Rank.units_le_units
  have downward : rank'.units ≤ rank.units ↔ rank'.val ≤ rank.val := Rank.units_le_units
  have zeroUnits := @units_eq_zero_iff rank
  have zeroUnits' := @units_eq_zero_iff rank'
  cases negative with
  | false =>
      cases negative' with
      | false =>
          simp only [place, signedUnits, Bool.false_eq_true, if_false]
          omega
      | true =>
          simp only [place, signedUnits, Bool.false_eq_true, if_false, if_true]
          omega
  | true =>
      cases negative' with
      | false =>
          simp only [place, signedUnits, Bool.false_eq_true, if_false, if_true]
          omega
      | true =>
          simp only [place, signedUnits, if_true]
          omega

theorem number_le_number_iff :
    number negative rank ≤ number negative' rank' ↔
      signedUnits negative rank ≤ signedUnits negative' rank' :=
  (number_le_number negative negative' rank rank').trans place_le_place_iff

end Units

end Rover.Binary64
