import Rover.Proofs.Binary64.Order
import Rover.Proofs.Entry.Range
import Rover.Proofs.Monitor.Comparison

/-!
# Thresholds compared exactly

A threshold is a whole number, and so is a level of light, but they are compared as numbers of the
binary format, because a temperature is one. Whole numbers of 32 binary digits are on the grid, so
every comparison is that of the exact values.
-/

namespace Rover

open Binary64 (signedUnits)

namespace ThresholdRange

/-- A level reaches the threshold in this direction: it has come down to it, or up to it. -/
def Reached (range : ThresholdRange) (level threshold : Int) : Prop :=
  match range with
  | .minimum => level ≤ threshold
  | .maximum => threshold ≤ level

section Reached

variable {range : ThresholdRange} {level threshold factor : Int}

/-- In whatever unit both are counted. -/
theorem reached_mul_iff (positive : 0 < factor) :
    range.Reached (level * factor) (threshold * factor) ↔ range.Reached level threshold := by
  cases range with
  | minimum => exact Int.mul_le_mul_right positive
  | maximum => exact Int.mul_le_mul_right positive

/-- Every level reaches the threshold in one of the two directions. -/
theorem reached_or_reached (level threshold : Int) :
    minimum.Reached level threshold ∨ maximum.Reached level threshold :=
  Int.le_total level threshold

/-- In both directions only the threshold itself is reached. -/
theorem reached_and_reached_iff :
    minimum.Reached level threshold ∧ maximum.Reached level threshold ↔ level = threshold :=
  Int.le_antisymm_iff.symm

end Reached

/-- Numbers are compared by their values. -/
theorem isExceeded_iff_units {range : ThresholdRange} {negative negative' : Bool}
    {rank rank' : Rank} :
    range.isExceeded (.number negative rank) (.number negative' rank') = true ↔
      range.Reached (signedUnits negative rank) (signedUnits negative' rank') := by
  cases range with
  | minimum => exact Binary64.number_le_number_iff
  | maximum => exact Binary64.number_le_number_iff

end ThresholdRange

/-! ## Whole numbers of 32 binary digits -/

theorem natAbs_toInt_le (word : Int32) : word.toInt.natAbs ≤ 2 * binadeSize := by
  have low := word.le_toInt
  have high := word.toInt_lt
  have binades : 2 * binadeSize = 9007199254740992 := rfl
  omega

theorem is_ofInt_toInt (word : Int32) : (Binary64.ofInt word.toInt).Is word.toInt :=
  Binary64.is_ofInt (natAbs_toInt_le word)

/-- Infinity is beyond all of them. -/
theorem natAbs_units_lt_infinity (word : Int32) :
    (word.toInt * unitsPerOne).natAbs < Rank.infinity.units := by
  have finite := Rank.units_lt_units.mpr (Rank.ofNat_lt_infinity (natAbs_toInt_le word))
  rw [Rank.units_ofNat (natAbs_toInt_le word)] at finite
  rwa [Int.natAbs_mul, Int.natAbs_natCast]

namespace ThresholdRange

variable {range : ThresholdRange} {threshold : Int32}

theorem isExceeded_number_iff {negative : Bool} {rank : Rank} :
    range.isExceeded (.number negative rank) (.ofInt threshold.toInt) = true ↔
      range.Reached (signedUnits negative rank) (threshold.toInt * unitsPerOne) := by
  obtain ⟨negative', rank', written, units⟩ := is_ofInt_toInt threshold
  rw [written, isExceeded_iff_units, units]

theorem isExceeded_level_iff {level : Int32} :
    range.isExceeded (.ofInt level.toInt) (.ofInt threshold.toInt) = true ↔
      range.Reached level.toInt threshold.toInt := by
  obtain ⟨negative, rank, written, units⟩ := is_ofInt_toInt level
  rw [written, isExceeded_number_iff, units]
  exact reached_mul_iff (Int.ofNat_lt.mpr unitsPerOne_pos)

theorem isExceeded_infinity_iff {negative : Bool} :
    range.isExceeded (.infinity negative) (.ofInt threshold.toInt) = true ↔
      range = if negative then .minimum else .maximum := by
  have beyond := natAbs_units_lt_infinity threshold
  rw [Binary64.infinity, isExceeded_number_iff]
  cases negative with
  | false =>
      have units : signedUnits false .infinity = Rank.infinity.units := rfl
      rw [units]
      cases range with
      | minimum =>
          refine iff_of_false ?_ (by rintro ⟨⟩)
          simp only [Reached]
          omega
      | maximum =>
          refine iff_of_true ?_ rfl
          simp only [Reached]
          omega
  | true =>
      have units : signedUnits true .infinity = -(Rank.infinity.units : Int) := rfl
      rw [units]
      cases range with
      | minimum =>
          refine iff_of_true ?_ rfl
          simp only [Reached]
          omega
      | maximum =>
          refine iff_of_false ?_ (by rintro ⟨⟩)
          simp only [Reached]
          omega

end ThresholdRange

namespace Sample

variable {range : ThresholdRange} {threshold : Int32}

theorem any_side_iff {side : Option Int32} :
    ((side.map fun level => Binary64.ofInt level.toInt).any fun reading =>
        range.isExceeded reading (.ofInt threshold.toInt)) = true ↔
      ∃ level, side = some level ∧ range.Reached level.toInt threshold.toInt := by
  cases side with
  | none => simp
  | some level => simp [ThresholdRange.isExceeded_level_iff]

/-- One side that reaches the threshold is enough, and a side that was not sampled does not. -/
theorem exceeds_light_iff {left right : Option Int32} :
    (light left right).exceeds range threshold = true ↔
      ∃ level, (left = some level ∨ right = some level) ∧
        range.Reached level.toInt threshold.toInt := by
  rw [exceeds, Bool.or_eq_true, sides, any_side_iff, any_side_iff, ← exists_or]
  simp only [or_and_right]

theorem exceeds_temperature (celsius : Binary64) :
    (temperature celsius).exceeds range threshold =
      range.isExceeded celsius (.ofInt threshold.toInt) :=
  Bool.or_false _

theorem exceeds_number_iff {negative : Bool} {rank : Rank} :
    (temperature (.number negative rank)).exceeds range threshold = true ↔
      range.Reached (signedUnits negative rank) (threshold.toInt * unitsPerOne) := by
  rw [exceeds_temperature, ThresholdRange.isExceeded_number_iff]

theorem exceeds_infinity_iff {negative : Bool} :
    (temperature (.infinity negative)).exceeds range threshold = true ↔
      range = if negative then .minimum else .maximum := by
  rw [exceeds_temperature, ThresholdRange.isExceeded_infinity_iff]

/-- Of a temperature that is a number no threshold is left open. -/
theorem exceeds_or_exceeds {celsius : Binary64} (notNan : celsius ≠ .nan) :
    (temperature celsius).exceeds .minimum threshold = true ∨
      (temperature celsius).exceeds .maximum threshold = true := by
  obtain ⟨negative, rank, rfl⟩ := Binary64.exists_number notNan
  rw [exceeds_number_iff, exceeds_number_iff]
  exact ThresholdRange.reached_or_reached _ _

/-- Both directions meet at the threshold alone. -/
theorem exceeds_and_exceeds_iff {celsius : Binary64} :
    ((temperature celsius).exceeds .minimum threshold = true ∧
      (temperature celsius).exceeds .maximum threshold = true) ↔ celsius.Is threshold.toInt := by
  cases celsius with
  | nan =>
      rw [exceeds_nan]
      refine iff_of_false (fun both => Bool.false_ne_true both.1) ?_
      rintro ⟨_, _, ⟨⟩, -⟩
  | number negative rank =>
      rw [exceeds_number_iff, exceeds_number_iff, ThresholdRange.reached_and_reached_iff,
        Binary64.is_number_iff]

/-- A sample crosses a threshold just if one of its readings reaches it, compared exactly. Levels of
light are compared as whole numbers, and a side that was not sampled never crosses. Temperatures are
compared by their units. One that is a number crosses in one of the two directions, and in both just
if it is exactly the threshold; the infinities cross in their own, and what is no number in none.
What crosses a threshold upwards crosses every lower one, and downwards every higher one. -/
theorem exceeds_compares_exactly (threshold : Int32) :
    let exceeds := fun (sample : Sample) range => sample.exceeds range threshold = true
    (∀ left right range, exceeds (light left right) range ↔
      ∃ level, (left = some level ∨ right = some level) ∧
        range.Reached level.toInt threshold.toInt) ∧
    (∀ range, ¬exceeds (light none none) range) ∧
    (∀ negative rank range, exceeds (temperature (.number negative rank)) range ↔
      range.Reached (signedUnits negative rank) (threshold.toInt * unitsPerOne)) ∧
    (∀ celsius,
      let crosses := exceeds (temperature celsius)
      (celsius ≠ .nan → crosses .minimum ∨ crosses .maximum) ∧
        (crosses .minimum ∧ crosses .maximum ↔ celsius.Is threshold.toInt)) ∧
    (∀ range,
      (exceeds (temperature (.infinity false)) range ↔ range = .maximum) ∧
      (exceeds (temperature (.infinity true)) range ↔ range = .minimum) ∧
      ¬exceeds (temperature .nan) range) ∧
    ∀ sample other,
      (exceeds sample .maximum → other ≤ threshold → sample.exceeds .maximum other = true) ∧
      (exceeds sample .minimum → threshold ≤ other → sample.exceeds .minimum other = true) := by
  intro exceeds
  refine ⟨fun left right range => exceeds_light_iff, ?unsampled,
    fun negative rank range => exceeds_number_iff,
    fun celsius => ⟨exceeds_or_exceeds, exceeds_and_exceeds_iff⟩,
    fun range => ⟨exceeds_infinity_iff, exceeds_infinity_iff, ?nan⟩, ?other⟩
  case unsampled =>
    intro range crosses
    obtain ⟨level, sampled, -⟩ := exceeds_light_iff.mp crosses
    rcases sampled with ⟨⟨⟩⟩ | ⟨⟨⟩⟩
  case nan =>
    intro crosses
    exact Bool.false_ne_true ((exceeds_nan range threshold).symm.trans crosses)
  case other =>
    intro sample other
    constructor
    · intro crosses lower
      have looser : ThresholdRange.maximum.Looser threshold other := lower
      exact exceeds_of_looser looser crosses
    · intro crosses higher
      have looser : ThresholdRange.minimum.Looser threshold other := higher
      exact exceeds_of_looser looser crosses

/-- Half a degree above the highest threshold, which is itself on the grid, and a level that comes
up to it on the right side alone. -/
theorem exceeds_compares_exactly_highest :
    let highest := Int32.maxValue
    let above := Binary64.ofRatio false 4294967295 2
    above ≠ .nan ∧ (temperature above).exceeds .maximum highest = true ∧
      ¬above.Is highest.toInt ∧
      (light none (some highest)).exceeds .maximum highest = true ∧
      (light none (some highest)).exceeds .maximum 0 = true := by
  intro highest above
  obtain ⟨lights, -, -, temperatures, -, others⟩ := exceeds_compares_exactly highest
  have number : above ≠ .nan := by decide +kernel
  have below : ¬(temperature above).exceeds .minimum highest = true := by decide +kernel
  have full : (light none (some highest)).exceeds .maximum highest = true :=
    (lights none _ .maximum).mpr ⟨highest, .inr rfl, Int.le_refl _⟩
  obtain ⟨either, both⟩ := temperatures above
  refine ⟨number, (either number).resolve_left below, ?_, full, ?_⟩
  · intro exact
    exact below (both.mpr exact).1
  · exact (others _ 0).1 full (by decide)

end Sample

end Rover
