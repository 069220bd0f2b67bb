import Mathlib.Algebra.Order.Field.Basic
import Mathlib.Data.Rat.Cast.Order
import Rover.Proofs.Json.Scaling

/-!
# Which numbers are taken

The reader refuses a number whose scaled digits are beyond every finite number. The digits that it
drops only make a number smaller, so a bound on what was written bounds what is scaled. Below one
magnitude every number is taken, and this magnitude is refused, although it is in the range of the
format.
-/

namespace Rover

namespace Binary64

theorem mul_number {negative negative' : Bool} {rank rank' : Rank} (finite : rank ≠ .infinity)
    (finite' : rank' ≠ .infinity) :
    (number negative rank).mul (number negative' rank') =
      number (negative != negative') (.nearest (rank.units * rank'.units) unitsPerOne) := by
  simp only [mul, if_neg (not_or_intro finite finite')]

end Binary64

namespace Json

/-! ## The digits that are taken -/

/-- The digits that are taken and those that are not make up the row. The first one that is not
would have passed the word. -/
theorem gather_spec (word : Nat) (row : List Char) :
    ∃ front, row = front ++ (gather word row).2 ∧
      (gather word row).1 = Nat.ofDigitChars 10 front word ∧
      (word ≤ wordMax → (gather word row).1 ≤ wordMax) ∧
      ∀ digit ∈ (gather word row).2.head?,
        wordMax < 10 * (gather word row).1 + digitValue digit := by
  induction row generalizing word with
  | nil => exact ⟨[], rfl, rfl, id, by rintro _ ⟨⟩⟩
  | cons digit rest ih =>
      rw [gather]
      by_cases fits : 10 * word + digitValue digit ≤ wordMax
      · rw [if_pos fits]
        obtain ⟨front, row, taken, bounded, next⟩ := ih (10 * word + digitValue digit)
        refine ⟨digit :: front, congrArg _ row, ?_, fun _ => bounded fits, next⟩
        rw [taken, Nat.ofDigitChars_cons]
        rfl
      · rw [if_neg fits]
        refine ⟨[], rfl, rfl, id, ?_⟩
        rintro _ ⟨⟩
        exact Nat.lt_of_not_le fits

theorem ofDigits_mul_tenTo_le (front rest : List Char) :
    ofDigits front * tenTo rest.length ≤ ofDigits (front ++ rest) := by
  rw [ofDigits_append]
  exact Nat.le_add_right _ _

/-- What is taken, at the place of its last digit, is at most the row. If whole digits were dropped,
fraction digits may still have been taken: then the first dropped digit makes up for them. -/
theorem taken_le {front wholeRest front' : List Char} (fractionRest : List Char)
    (fits : ofDigits (front ++ front') ≤ wordMax)
    (next : ∀ digit ∈ wholeRest.head?, wordMax < 10 * ofDigits front + digitValue digit) :
    ofDigits (front ++ front') * tenTo (wholeRest.length + fractionRest.length) ≤
      ofDigits ((front ++ wholeRest) ++ (front' ++ fractionRest)) := by
  cases wholeRest with
  | nil =>
      have row : (front ++ []) ++ (front' ++ fractionRest) =
          (front ++ front') ++ fractionRest := by simp only [List.append_nil, List.append_assoc]
      rw [row, List.length_nil, Nat.zero_add]
      exact ofDigits_mul_tenTo_le _ _
  | cons digit wholeRest =>
      have whole : ofDigits (front ++ digit :: wholeRest) *
          tenTo (front' ++ fractionRest).length ≤
            ofDigits ((front ++ digit :: wholeRest) ++ (front' ++ fractionRest)) :=
        ofDigits_mul_tenTo_le _ _
      refine Nat.le_trans ?_ whole
      cases front' with
      | nil =>
          rw [List.append_nil, List.nil_append, tenTo_add, ← Nat.mul_assoc]
          exact Nat.mul_le_mul_right _ (ofDigits_mul_tenTo_le _ _)
      | cons digit' front' =>
          have dropped : (10 * ofDigits front + digitValue digit) * tenTo wholeRest.length ≤
              ofDigits (front ++ digit :: wholeRest) := by
            have row := ofDigits_mul_tenTo_le (front ++ [digit]) wholeRest
            rw [List.append_assoc, List.singleton_append, ofDigits, Nat.ofDigitChars_append,
              Nat.ofDigitChars_cons, Nat.ofDigitChars_nil] at row
            exact row
          have word := Nat.le_of_lt (Nat.lt_of_le_of_lt fits (next digit rfl))
          calc ofDigits (front ++ digit' :: front') *
                tenTo ((digit :: wholeRest).length + fractionRest.length)
              ≤ (10 * ofDigits front + digitValue digit) *
                  tenTo (wholeRest.length + (digit' :: front' ++ fractionRest).length) := by
                refine Nat.mul_le_mul word (tenTo_le_tenTo ?_)
                simp only [List.length_cons, List.length_append]
                omega
            _ = (10 * ofDigits front + digitValue digit) * tenTo wholeRest.length *
                  tenTo (digit' :: front' ++ fractionRest).length := by
                rw [tenTo_add, Nat.mul_assoc]
            _ ≤ ofDigits (front ++ digit :: wholeRest) *
                  tenTo (digit' :: front' ++ fractionRest).length :=
                Nat.mul_le_mul_right _ dropped

namespace Numeral

theorem cast_tenTo (exponent : Nat) : ((tenTo exponent : Nat) : ℚ) = 10 ^ exponent :=
  Nat.cast_pow 10 exponent

/-- The magnitude that is written, exactly. -/
def magnitude (numeral : Numeral) : ℚ :=
  ofDigits (numeral.whole ++ numeral.fraction) *
    10 ^ (numeral.power - numeral.fraction.length)

theorem magnitude_ofInt (value : Int) : (ofInt value).magnitude = value.natAbs := by
  simp [magnitude, ofInt, power]

/-- The reader scales one word of digits, at most the magnitude that is written. -/
theorem toBinary64?_eq_scale (numeral : Numeral) :
    ∃ significand exponent, numeral.toBinary64? = scale numeral.negative significand exponent ∧
      significand ≤ wordMax ∧ (significand : ℚ) * 10 ^ exponent ≤ numeral.magnitude := by
  obtain ⟨front, whole, head, bounded, next⟩ := gather_spec 0 numeral.whole
  obtain ⟨front', fraction, taken, bounded', -⟩ :=
    gather_spec (gather 0 numeral.whole).1 numeral.fraction
  have scaled : numeral.toBinary64? = scale numeral.negative
      (gather (gather 0 numeral.whole).1 numeral.fraction).1
      ((gather 0 numeral.whole).2.length - (numeral.fraction.length -
        (gather (gather 0 numeral.whole).1 numeral.fraction).2.length : Nat) +
        numeral.power) := rfl
  generalize (gather (gather 0 numeral.whole).1 numeral.fraction).2 = fractionRest at *
  generalize (gather 0 numeral.whole).2 = wholeRest at *
  have head : (gather 0 numeral.whole).1 = ofDigits front := head
  have taken' : (gather (gather 0 numeral.whole).1 numeral.fraction).1 =
      ofDigits (front ++ front') := by
    rw [taken, head, ofDigits, ofDigits, Nat.ofDigitChars_append]
  have fits := bounded' (bounded (Nat.zero_le _))
  rw [head] at next
  rw [taken'] at scaled fits
  refine ⟨_, _, scaled, fits, ?_⟩
  have least := taken_le fractionRest fits next
  rw [← whole, ← fraction] at least
  have length : numeral.fraction.length = front'.length + fractionRest.length := by
    rw [fraction, List.length_append]
  have place : ((wholeRest.length : Int) - (numeral.fraction.length - fractionRest.length : Nat) +
      numeral.power) = (wholeRest.length + fractionRest.length : Nat) +
        (numeral.power - numeral.fraction.length) := by omega
  rw [place, zpow_add₀ (by norm_num), zpow_natCast, ← mul_assoc, magnitude]
  apply mul_le_mul_of_nonneg_right
  · exact_mod_cast least
  · exact zpow_nonneg (by norm_num) _

end Numeral

/-! ## The scaling that succeeds -/

/-- The least magnitude that is refused. -/
def leastRefused : Nat := 17976931348623156225 * tenTo 289

/-- A product does not become smaller with its factors. -/
theorem product_le_product {significand significand' power power' : Nat}
    (ordered : significand ≤ significand') (ordered' : power ≤ power') :
    Rank.nearest ((Rank.ofNat significand).units * (Rank.ofNat (tenTo power)).units) unitsPerOne ≤
      Rank.nearest ((Rank.ofNat significand').units * (Rank.ofNat (tenTo power')).units)
        unitsPerOne := by
  apply Rank.nearest_le_nearest unitsPerOne_pos unitsPerOne_pos
  apply Nat.mul_le_mul_right
  apply Nat.mul_le_mul
  · exact Rank.units_le_units.mpr (Rank.ofNat_le_ofNat ordered)
  · exact Rank.units_le_units.mpr (Rank.ofNat_le_ofNat (tenTo_le_tenTo ordered'))

/-- Up to the 288th power every word can be scaled. For the powers above it the greatest significand
is looked at that keeps below the bound. -/
theorem product_lt_infinity {significand power : Nat} (fits : significand ≤ wordMax)
    (less : significand * tenTo power < leastRefused) (small : power ≤ greatestPower) :
    Rank.nearest ((Rank.ofNat significand).units * (Rank.ofNat (tenTo power)).units) unitsPerOne <
      .infinity := by
  by_cases low : power ≤ 288
  · refine Fin.lt_of_le_of_lt (product_le_product fits low) ?_
    decide +kernel
  · have high : ∀ more : Fin 20, Rank.nearest
        ((Rank.ofNat ((leastRefused - 1) / tenTo (289 + more.val))).units *
          (Rank.ofNat (tenTo (289 + more.val))).units) unitsPerOne < .infinity := by
      decide +kernel
    have small : power ≤ 308 := small
    have split : 289 + (power - 289) = power := by omega
    have top := high ⟨power - 289, by omega⟩
    simp only [split] at top
    refine Fin.lt_of_le_of_lt (product_le_product ?_ (Nat.le_refl power)) top
    rw [Nat.le_div_iff_mul_le (tenTo_pos power)]
    exact Nat.le_sub_one_of_lt less

theorem grow_of_lt {significand power : Nat} (fits : significand ≤ wordMax)
    (less : significand * tenTo power < leastRefused) :
    ∃ value, grow (.ofNat significand) power = some value := by
  have finite : Rank.ofNat significand < .infinity := by
    have word : Rank.ofNat wordMax < .infinity := by decide +kernel
    exact Fin.lt_of_le_of_lt (Rank.ofNat_le_ofNat fits) word
  rw [grow]
  by_cases small : power ≤ greatestPower
  · have product : (Binary64.ofNat significand).mul (powerOfTen power) = .number false
        (.nearest ((Rank.ofNat significand).units * (Rank.ofNat (tenTo power)).units)
          unitsPerOne) :=
      Binary64.mul_number (Fin.ne_of_lt finite)
        (Fin.ne_of_lt (Rank.ofNat_tenTo_lt_infinity small))
    have bounded : ((Binary64.ofNat significand).mul (powerOfTen power)).isFinite = true := by
      rw [product, Binary64.isFinite, decide_eq_true_eq]
      exact product_lt_infinity fits less small
    refine ⟨(Binary64.ofNat significand).mul (powerOfTen power), ?_⟩
    simp only [if_pos small, bounded, if_true]
  · have isZero : significand = 0 := by
      have power : tenTo 309 ≤ tenTo power := tenTo_le_tenTo (Nat.lt_of_not_le small)
      have bound : leastRefused < tenTo 309 := by decide +kernel
      by_contra nonzero
      have least := Nat.mul_le_mul (Nat.pos_of_ne_zero nonzero) power
      omega
    have zero : (Binary64.ofNat 0).sameNumber .zero = true := by decide +kernel
    rw [if_neg small, isZero]
    exact ⟨_, if_pos zero⟩

theorem scale_of_lt {significand : Nat} {exponent : Int} (negative : Bool)
    (fits : significand ≤ wordMax) (less : (significand : ℚ) * 10 ^ exponent < leastRefused) :
    ∃ value, scale negative significand exponent = some value := by
  rw [scale]
  by_cases whole : 0 ≤ exponent
  · obtain ⟨power, rfl⟩ := Int.eq_ofNat_of_zero_le whole
    rw [zpow_natCast] at less
    have less : significand * tenTo power < leastRefused := by exact_mod_cast less
    obtain ⟨value, grown⟩ := grow_of_lt fits less
    simp only [if_pos whole, Int.toNat_natCast, grown, Option.map_some]
    exact ⟨_, rfl⟩
  · simp only [if_neg whole, Option.map_some]
    exact ⟨_, rfl⟩

namespace Numeral

/-- Every number below the bound is taken. -/
theorem toBinary64?_of_lt {numeral : Numeral} (less : numeral.magnitude < leastRefused) :
    ∃ value, numeral.toBinary64? = some value := by
  obtain ⟨significand, exponent, scaled, fits, least⟩ := numeral.toBinary64?_eq_scale
  rw [scaled]
  exact scale_of_lt numeral.negative fits (lt_of_le_of_lt least less)

/-- The magnitude is at most a finite one of the format. -/
def InRange (numeral : Numeral) : Prop :=
  ∃ rank : Rank, rank < .infinity ∧ numeral.magnitude * unitsPerOne ≤ rank.units

/-- The bound, as it can be written. -/
def refused : Numeral := ⟨false, digits 17976931348623156225, [], some (false, digits 289)⟩

theorem wf_refused : refused.WF where
  whole := allDigits_digits 17976931348623156225
  some_whole := digits_ne_nil 17976931348623156225
  leading zero := absurd zero (head?_digits (show 17976931348623156225 ≠ 0 by decide))
  fraction := List.forall_mem_nil _
  exponent := by
    rintro _ _ ⟨⟩
    exact ⟨allDigits_digits _, digits_ne_nil _⟩

theorem magnitude_refused : refused.magnitude = leastRefused := by
  have significand : ofDigits (refused.whole ++ refused.fraction) = 17976931348623156225 := by
    change ofDigits (digits 17976931348623156225 ++ []) = _
    rw [List.append_nil, ofDigits_digits]
  have power : refused.power - refused.fraction.length = (289 : Nat) :=
    congrArg (fun value : Nat => (value : Int) - 0) (ofDigits_digits 289)
  rw [magnitude, significand, power, zpow_natCast, leastRefused, Nat.cast_mul, cast_tenTo]

/-- The bound itself is not taken, although it is in range. -/
theorem toBinary64?_refused : refused.InRange ∧ refused.toBinary64? = none := by
  constructor
  · refine ⟨⟨infinityRank - 1, by decide⟩, by decide, ?_⟩
    have bound : leastRefused * unitsPerOne ≤ Rank.units ⟨infinityRank - 1, by decide⟩ := by
      decide +kernel
    rw [magnitude_refused]
    exact_mod_cast bound
  · decide +kernel

end Numeral

end Json

end Rover
