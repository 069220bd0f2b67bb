import Rover.Binary64.Arithmetic
import Rover.Proofs.Binary64.Nearest

/-!
# Whole numbers of the format

A whole number of up to 53 binary digits is on the grid, so it is taken as it is and bounds what
is rounded: no product, no rounding to whole numbers and no conversion to a word can leave the
range between two of them.
-/

namespace Rover

namespace Rank

/-- The rank of a natural number, rounded if need be. -/
def ofNat (value : Nat) : Rank := nearest (value * unitsPerOne) 1

/-- Every significand of up to 53 binary digits at a power of two is on the grid. It is shifted
up until it fills its binade. -/
theorem exists_units_eq {significand exponent : Nat} (fits : significand ≤ 2 * binadeSize)
    (least : 52 ≤ exponent) (greatest : exponent ≤ 2044) :
    ∃ rank : Rank, rank < .infinity ∧ rank.units = significand * twoTo exponent := by
  rcases Nat.eq_zero_or_pos significand with isZero | positive
  · exact ⟨.zero, by decide, by rw [isZero, Nat.zero_mul]; rfl⟩
  · let rise := 52 - significand.log2
    have binades : 2 * binadeSize = 2 ^ 53 := rfl
    have filled : binadeSize ≤ significand * twoTo rise ∧
        significand * twoTo rise ≤ 2 * binadeSize := by
      have low := Nat.log2_self_le (Nat.ne_of_gt positive)
      have high : significand < 2 ^ (significand.log2 + 1) := Nat.lt_log2_self
      rcases Nat.lt_or_ge significand.log2 53 with short | long
      · constructor
        · calc binadeSize = 2 ^ significand.log2 * twoTo rise := by
                rw [twoTo_eq, ← Nat.pow_add]
                exact congrArg (2 ^ ·) (by omega : 52 = significand.log2 + rise)
            _ ≤ significand * twoTo rise := Nat.mul_le_mul_right _ low
        · calc significand * twoTo rise
              ≤ 2 ^ (significand.log2 + 1) * twoTo rise :=
                Nat.mul_le_mul_right _ (Nat.le_of_lt high)
            _ = 2 * binadeSize := by
                rw [twoTo_eq, ← Nat.pow_add, binades]
                exact congrArg (2 ^ ·) (by omega : significand.log2 + 1 + rise = 53)
      · have flat : rise = 0 := by omega
        have large : (2 : Nat) ^ 53 ≤ 2 ^ significand.log2 := Nat.pow_le_pow_right (by decide) long
        rw [flat, twoTo_zero, Nat.mul_one]
        omega
    have scaled : Scaled ((exponent - rise) * binadeSize + significand * twoTo rise)
        (exponent - rise) (significand * twoTo rise) := ⟨rfl, .inr filled.1, filled.2⟩
    have inside : (exponent - rise) * binadeSize + significand * twoTo rise < infinityRank := by
      have last : infinityRank = 2047 * binadeSize := rfl
      have shifted : (exponent - rise) * binadeSize ≤ 2044 * binadeSize :=
        Nat.mul_le_mul_right _ (by omega)
      have size := binadeSize_pos
      omega
    refine ⟨⟨_, Nat.lt_succ_of_lt inside⟩, inside, ?_⟩
    rw [units_eq, scaled.unitsAt_eq, Nat.mul_assoc, ← twoTo_add, Nat.add_sub_cancel' (by omega)]

/-- A whole number of up to 53 binary digits at a further power of two is not rounded. -/
theorem units_ofNat_mul_twoTo {significand exponent : Nat} (fits : significand ≤ 2 * binadeSize)
    (greatest : exponent ≤ 970) :
    (ofNat (significand * twoTo exponent)).units =
        significand * twoTo exponent * unitsPerOne ∧
      ofNat (significand * twoTo exponent) < .infinity := by
  have least : 52 ≤ exponent + unitExponent := by
    rw [unitExponent]
    omega
  have most : exponent + unitExponent ≤ 2044 := by
    rw [unitExponent]
    omega
  obtain ⟨rank, finite, units⟩ := exists_units_eq fits least most
  rw [twoTo_add, ← Nat.mul_assoc] at units
  have same : ofNat (significand * twoTo exponent) = rank := by
    rw [ofNat, unitsPerOne, ← units, ← Nat.mul_one rank.units]
    exact nearest_units rank Nat.one_pos
  rw [same]
  exact ⟨units, finite⟩

theorem units_ofNat {value : Nat} (fits : value ≤ 2 * binadeSize) :
    (ofNat value).units = value * unitsPerOne := by
  have exact := (units_ofNat_mul_twoTo fits (Nat.zero_le 970)).1
  rwa [twoTo_zero, Nat.mul_one] at exact

theorem ofNat_lt_infinity {value : Nat} (fits : value ≤ 2 * binadeSize) :
    ofNat value < .infinity := by
  have exact := (units_ofNat_mul_twoTo fits (Nat.zero_le 970)).2
  rwa [twoTo_zero, Nat.mul_one] at exact

theorem ofNat_zero : ofNat 0 = .zero :=
  (congrArg (nearest · 1) (Nat.zero_mul unitsPerOne)).trans (nearest_zero Nat.one_pos)

theorem ne_infinity_of_le {rank : Rank} {bound : Nat} (ordered : rank ≤ ofNat bound)
    (fits : bound ≤ 2 * binadeSize) : rank ≠ .infinity :=
  Fin.ne_of_lt (Fin.lt_of_le_of_lt ordered (ofNat_lt_infinity fits))

theorem ofNat_le_ofNat {left right : Nat} (ordered : left ≤ right) : ofNat left ≤ ofNat right :=
  nearest_le_nearest Nat.one_pos Nat.one_pos
    (Nat.mul_le_mul_right 1 (Nat.mul_le_mul_right unitsPerOne ordered))

theorem units_bounds {rank : Rank} {least greatest : Nat} (low : ofNat least ≤ rank)
    (high : rank ≤ ofNat greatest) (ordered : least ≤ greatest) (fits : greatest ≤ 2 * binadeSize) :
    least * unitsPerOne ≤ rank.units ∧ rank.units ≤ greatest * unitsPerOne := by
  rw [← units_ofNat fits, ← units_ofNat (Nat.le_trans ordered fits)]
  exact ⟨units_le_units.mpr low, units_le_units.mpr high⟩

end Rank

namespace Binary64

theorem atMost_trans {first second third : Binary64} (low : first ≤ second)
    (high : second ≤ third) : first ≤ third := by
  cases first with
  | nan => exact absurd low (not_nan_le second)
  | number negative rank =>
      cases third with
      | nan => exact absurd high (not_le_nan second)
      | number negative'' rank'' =>
          cases second with
          | nan => exact absurd high (not_nan_le _)
          | number negative' rank' =>
              rw [number_le_number] at low high ⊢
              exact Int.le_trans low high

/-- Rounding keeps the order of integers. -/
theorem ofInt_le_ofInt {left right : Int} (ordered : left ≤ right) : ofInt left ≤ ofInt right := by
  have monotone : ∀ {least greatest : Nat}, least ≤ greatest →
      Rank.nearest (least * unitsPerOne) 1 ≤ Rank.nearest (greatest * unitsPerOne) 1 :=
    Rank.ofNat_le_ofNat
  simp only [ofInt, ofRatio, number_le_number, place, decide_eq_true_eq]
  split
  next negative =>
    split
    next negative' =>
      have magnitudes := monotone (show right.natAbs ≤ left.natAbs by omega)
      have ranks := Fin.le_def.mp magnitudes
      omega
    next => omega
  next positive =>
    rw [if_neg (by omega)]
    have magnitudes := monotone (show left.natAbs ≤ right.natAbs by omega)
    have ranks := Fin.le_def.mp magnitudes
    omega

/-- A whole number that fits a word is converted to it exactly, also if it is a zero with a sign. -/
theorem toNat_toUInt32_ofRatio {negative : Bool} {whole : Nat} (fits : whole ≤ 0xffffffff)
    (unsigned : negative = true → whole = 0) :
    (ofRatio negative whole 1).toUInt32.toNat = whole := by
  cases negative with
  | true =>
      rw [unsigned rfl]
      rfl
  | false =>
      have units : (Rank.ofNat whole).units = whole * unitsPerOne :=
        Rank.units_ofNat (Nat.le_trans fits (by decide))
      change (UInt32.ofNat (min ((Rank.ofNat whole).units / unitsPerOne) 0xffffffff)).toNat = whole
      rw [units, Nat.mul_div_cancel _ unitsPerOne_pos, Nat.min_eq_left fits,
        UInt32.toNat_ofNat_of_lt' (Nat.lt_succ_of_le fits)]

/-- The value has the given sign, and its magnitude lies between two whole numbers. -/
def Between (value : Binary64) (negative : Bool) (least greatest : Nat) : Prop :=
  ∃ rank, value = .number negative rank ∧ Rank.ofNat least ≤ rank ∧ rank ≤ Rank.ofNat greatest

theorem between_ofNat (value : Nat) : (ofNat value).Between false value value :=
  ⟨Rank.ofNat value, rfl, Fin.le_refl _, Fin.le_refl _⟩

namespace Between

variable {value other : Binary64} {negative negative' : Bool}
variable {least least' lowest greatest greatest' highest : Nat}

/-- Products stay between the products of the bounds. -/
theorem mul (within : value.Between negative least greatest)
    (within' : other.Between negative' least' greatest') (ordered : least ≤ greatest)
    (ordered' : least' ≤ greatest') (fits : greatest ≤ 2 * binadeSize)
    (fits' : greatest' ≤ 2 * binadeSize) (low : lowest ≤ least * least')
    (high : greatest * greatest' ≤ highest) (inside : highest ≤ 2 * binadeSize) :
    (value.mul other).Between (negative != negative') lowest highest := by
  obtain ⟨rank, rfl, least_le, le_greatest⟩ := within
  obtain ⟨rank', rfl, least_le', le_greatest'⟩ := within'
  have finite := Rank.ne_infinity_of_le le_greatest fits
  have finite' := Rank.ne_infinity_of_le le_greatest' fits'
  obtain ⟨below, above⟩ := Rank.units_bounds least_le le_greatest ordered fits
  obtain ⟨below', above'⟩ := Rank.units_bounds least_le' le_greatest' ordered' fits'
  have products : lowest ≤ highest :=
    Nat.le_trans low (Nat.le_trans (Nat.mul_le_mul ordered ordered') high)
  refine ⟨.nearest (rank.units * rank'.units) unitsPerOne, ?_, ?_, ?_⟩
  · change (if rank = .infinity ∨ rank' = .infinity then _ else _) = _
    rw [if_neg (not_or_intro finite finite')]
  · apply Rank.le_nearest_of_le unitsPerOne_pos
    rw [Rank.units_ofNat (Nat.le_trans products inside)]
    calc lowest * unitsPerOne * unitsPerOne = lowest * (unitsPerOne * unitsPerOne) := by ring
      _ ≤ least * least' * (unitsPerOne * unitsPerOne) := Nat.mul_le_mul_right _ low
      _ = least * unitsPerOne * (least' * unitsPerOne) := by ring
      _ ≤ rank.units * rank'.units := Nat.mul_le_mul below below'
  · apply Rank.nearest_le_of_le unitsPerOne_pos
    rw [Rank.units_ofNat inside]
    calc rank.units * rank'.units
        ≤ greatest * unitsPerOne * (greatest' * unitsPerOne) := Nat.mul_le_mul above above'
      _ = greatest * greatest' * (unitsPerOne * unitsPerOne) := by ring
      _ ≤ highest * (unitsPerOne * unitsPerOne) := Nat.mul_le_mul_right _ high
      _ = highest * unitsPerOne * unitsPerOne := by ring

/-- Rounding to a whole number does not pass a whole number. -/
theorem round (within : value.Between negative least greatest) (ordered : least ≤ greatest)
    (fits : greatest ≤ 2 * binadeSize) : value.round.Between negative least greatest := by
  obtain ⟨rank, rfl, least_le, le_greatest⟩ := within
  have finite := Rank.ne_infinity_of_le le_greatest fits
  obtain ⟨below, above⟩ := Rank.units_bounds least_le le_greatest ordered fits
  have whole (bound : Nat) : Tie.up.round (bound * unitsPerOne) unitsPerOne = bound :=
    Tie.up.round_mul bound unitsPerOne unitsPerOne_pos
  refine ⟨Rank.ofNat (Tie.up.round rank.units unitsPerOne), ?_, ?_, ?_⟩
  · change (if rank = .infinity then _ else _) = _
    rw [if_neg finite]
    rfl
  · apply Rank.ofNat_le_ofNat
    rw [← whole least]
    exact Tie.up.round_mono unitsPerOne_pos below
  · apply Rank.ofNat_le_ofNat
    rw [← whole greatest]
    exact Tie.up.round_mono unitsPerOne_pos above

theorem whole_bounds {rank : Rank} (least_le : Rank.ofNat least ≤ rank)
    (le_greatest : rank ≤ Rank.ofNat greatest) (ordered : least ≤ greatest)
    (fits : greatest ≤ 2 * binadeSize) :
    least ≤ rank.units / unitsPerOne ∧ rank.units / unitsPerOne ≤ greatest := by
  obtain ⟨below, above⟩ := Rank.units_bounds least_le le_greatest ordered fits
  constructor
  · exact (Nat.le_div_iff_mul_le unitsPerOne_pos).mpr below
  · exact Nat.div_le_of_le_mul (by rwa [Nat.mul_comm])

theorem toUInt32 (within : value.Between false least greatest) (ordered : least ≤ greatest)
    (fits : greatest ≤ 0xffffffff) :
    least ≤ value.toUInt32.toNat ∧ value.toUInt32.toNat ≤ greatest := by
  obtain ⟨rank, rfl, least_le, le_greatest⟩ := within
  obtain ⟨below, above⟩ :=
    whole_bounds least_le le_greatest ordered (Nat.le_trans fits (by decide))
  have whole : (number false rank).toUInt32.toNat = rank.units / unitsPerOne := by
    change (UInt32.ofNat _).toNat = _
    rw [Nat.min_eq_left (Nat.le_trans above fits), UInt32.toNat_ofNat_of_lt']
    exact Nat.lt_succ_of_le (Nat.le_trans above fits)
  rw [whole]
  exact ⟨below, above⟩

/-- A lower bound that fits the word holds of the word, even if the value does not fit. -/
theorem le_toUInt32 (within : value.Between false least greatest) (ordered : least ≤ greatest)
    (finite : greatest ≤ 2 * binadeSize) (fits : least ≤ 0xffffffff) :
    least ≤ value.toUInt32.toNat := by
  obtain ⟨rank, rfl, least_le, le_greatest⟩ := within
  obtain ⟨below, -⟩ := whole_bounds least_le le_greatest ordered finite
  change least ≤ (UInt32.ofNat (min (rank.units / unitsPerOne) 0xffffffff)).toNat
  rw [UInt32.toNat_ofNat_of_lt' (Nat.lt_succ_of_le (Nat.min_le_right _ _))]
  exact Nat.le_min.mpr ⟨below, fits⟩

end Between

end Binary64

end Rover
