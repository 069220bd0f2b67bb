import Rover.Proofs.Binary64.Whole
import Rover.Proofs.Program.Recipe

/-!
# Parameters within their bounds

Nothing checks the parameters of a run once they were entered. Within their bounds no speed made
from them overflows, the wait fits its word, and no command repeats more than 180 times.
-/

namespace Rover

/-! ## Motor power -/

/-- The range of motor power in either direction. -/
def IsPower (power : Int16) : Prop := -255 ≤ power.toInt ∧ power.toInt ≤ 255

instance (power : Int16) : Decidable (IsPower power) := inferInstanceAs (Decidable (_ ∧ _))

namespace IsPower

variable {power : Int16}

theorem toInt_neg (within : IsPower power) : (-power).toInt = -power.toInt := by
  obtain ⟨low, high⟩ := within
  rw [Int16.toInt_neg]
  exact Int.bmod_eq_of_le (by omega) (by omega)

theorem neg (within : IsPower power) : IsPower (-power) := by
  rw [IsPower, within.toInt_neg]
  obtain ⟨low, high⟩ := within
  omega

theorem quarters_bounds (within : IsPower power) {count : Int} (positive : 0 ≤ count)
    (part : count ≤ 4) :
    -255 ≤ (power.toInt * count).tdiv 4 ∧ (power.toInt * count).tdiv 4 ≤ 255 := by
  obtain ⟨low, high⟩ := within
  have below : -1020 ≤ power.toInt * count := by nlinarith
  have above : power.toInt * count ≤ 1020 := by nlinarith
  have four : Int.sign 4 = 1 := rfl
  rw [Int.tdiv_eq_ediv, four]
  split
  · omega
  · omega

/-- No number of quarters up to four overflows. -/
theorem toInt_quarters (within : IsPower power) {count : Int} (positive : 0 ≤ count)
    (part : count ≤ 4) :
    (Program.quarters count power).toInt = (power.toInt * count).tdiv 4 := by
  obtain ⟨low, high⟩ := within.quarters_bounds positive part
  rw [Program.quarters, Int16.toInt_ofInt]
  exact Int.bmod_eq_of_le (by rw [Int16.size]; omega) (by rw [Int16.size]; omega)

theorem quarters (within : IsPower power) {count : Int} (positive : 0 ≤ count)
    (part : count ≤ 4) : IsPower (Program.quarters count power) := by
  rw [IsPower, within.toInt_quarters positive part]
  exact within.quarters_bounds positive part

end IsPower

namespace Parameters

theorem speedInBounds_iff (speed : Int16) : speedInBounds speed = true ↔ IsPower speed := by
  rw [speedInBounds, Bool.and_eq_true, decide_eq_true_eq, decide_eq_true_eq, Int16.le_iff_toInt_le,
    Int16.le_iff_toInt_le]
  rfl

/-! ## Waits -/

/-- Of the values with a minus sign only zero is a wait. -/
theorem wait_cases {wait : Binary64} (within : waitInBounds wait = true) :
    wait.Between false 0 180 ∨ wait = .negativeZero := by
  rw [waitInBounds, Bool.and_eq_true] at within
  obtain ⟨low, high⟩ := within
  cases wait with
  | nan => cases low
  | number negative rank =>
      have least : Binary64.place false .zero ≤ Binary64.place negative rank :=
        of_decide_eq_true low
      have greatest : Binary64.place negative rank ≤ Binary64.place false (Rank.ofNat 180) :=
        of_decide_eq_true high
      cases negative with
      | false =>
          refine .inl ⟨rank, rfl, ?_, ?_⟩
          · rw [Rank.ofNat_zero]
            exact Nat.zero_le rank.val
          · exact Int.ofNat_le.mp greatest
      | true =>
          right
          have isZero : rank.val = 0 := by
            change (0 : Int) ≤ -(rank.val : Int) at least
            omega
          rw [Binary64.negativeZero, Fin.ext (b := Rank.zero) isZero]

/-- The three kinds of waits: the two zeros, and what is above zero and at most 180. -/
theorem wait_number_cases {wait : Binary64} (within : waitInBounds wait = true) :
    (∃ negative, wait = .number negative .zero) ∨
      ∃ rank, wait = .number false rank ∧ rank ≠ .zero ∧ rank ≠ .infinity ∧
        rank ≤ Rank.ofNat 180 := by
  rcases wait_cases within with ⟨rank, rfl, -, most⟩ | rfl
  · rcases eq_or_ne rank .zero with rfl | nonzero
    · exact .inl ⟨false, rfl⟩
    · exact .inr ⟨rank, rfl, nonzero, Rank.ne_infinity_of_le most (by decide), most⟩
  · exact .inl ⟨true, rfl⟩

theorem waitInBounds_of_le {rank : Rank} (most : rank ≤ Rank.ofNat 180) :
    waitInBounds (.number false rank) = true := by
  have low : Binary64.place false .zero ≤ Binary64.place false rank :=
    Int.ofNat_le.mpr (Nat.zero_le rank.val)
  have high : Binary64.place false rank ≤ Binary64.place false (Rank.ofNat 180) :=
    Int.ofNat_le.mpr most
  rw [waitInBounds, Bool.and_eq_true]
  exact ⟨decide_eq_true low, decide_eq_true high⟩

/-- A wait is a magnitude up to 180, which has a minus sign only if it is zero. -/
theorem exists_magnitude {wait : Binary64} (within : waitInBounds wait = true) :
    ∃ negative rank, wait = .number negative rank ∧ rank ≤ Rank.ofNat 180 ∧
      (negative = true → rank = .zero) := by
  rcases wait_cases within with ⟨rank, rfl, -, most⟩ | rfl
  · exact ⟨false, rank, rfl, most, by rintro ⟨⟩⟩
  · exact ⟨true, .zero, rfl, Fin.le_def.mpr (Nat.zero_le _), fun _ => rfl⟩

/-! ## Derived values

Both derived values of a wait come from its magnitude alone. They keep the order of magnitudes, and
at whole seconds they are exact, which settles them in between up to one second. -/

/-- The whole seconds of a magnitude. -/
def secondsOf (rank : Rank) : Nat := rank.units / unitsPerOne

/-- The milliseconds of a magnitude: the product is rounded, and then what comes of it once more to
a whole number. -/
def millisOf (rank : Rank) : Nat :=
  Tie.up.round (Rank.nearest (rank.units * (Rank.ofNat 1000).units) unitsPerOne).units unitsPerOne

section Magnitude

variable {rank rank' : Rank} {seconds : Nat}

theorem secondsOf_mono (ordered : rank ≤ rank') : secondsOf rank ≤ secondsOf rank' :=
  Nat.div_le_div_right (Rank.units_le_units.mpr ordered)

theorem secondsOf_ofNat (fits : seconds ≤ 2 * binadeSize) :
    secondsOf (Rank.ofNat seconds) = seconds := by
  rw [secondsOf, Rank.units_ofNat fits, Nat.mul_div_cancel _ unitsPerOne_pos]

theorem secondsOf_zero : secondsOf .zero = 0 := by
  rw [← Rank.ofNat_zero]
  exact secondsOf_ofNat (Nat.zero_le _)

theorem secondsOf_le (most : rank ≤ Rank.ofNat 180) : secondsOf rank ≤ 180 := by
  rw [← secondsOf_ofNat (show 180 ≤ 2 * binadeSize by decide)]
  exact secondsOf_mono most

theorem millisOf_mono (ordered : rank ≤ rank') : millisOf rank ≤ millisOf rank' := by
  apply Tie.up.round_mono unitsPerOne_pos
  rw [Rank.units_le_units]
  apply Rank.nearest_le_nearest unitsPerOne_pos unitsPerOne_pos
  apply Nat.mul_le_mul_right
  apply Nat.mul_le_mul_right
  exact Rank.units_le_units.mpr ordered

/-- Of whole seconds neither the product nor the milliseconds are rounded. -/
theorem millisOf_ofNat (fits : 1000 * seconds ≤ 2 * binadeSize) :
    millisOf (Rank.ofNat seconds) = 1000 * seconds := by
  have thousand : (Rank.ofNat 1000).units = 1000 * unitsPerOne := Rank.units_ofNat (by decide)
  have product : (Rank.ofNat seconds).units * (Rank.ofNat 1000).units =
      (Rank.ofNat (1000 * seconds)).units * unitsPerOne := by
    rw [Rank.units_ofNat fits, Rank.units_ofNat (by omega), thousand]
    ring
  rw [millisOf, product, Rank.nearest_units _ unitsPerOne_pos, Rank.units_ofNat fits,
    Tie.up.round_mul _ _ unitsPerOne_pos]

theorem millisOf_zero : millisOf .zero = 0 := by
  rw [← Rank.ofNat_zero]
  exact millisOf_ofNat (Nat.zero_le _)

theorem millisOf_le (most : rank ≤ Rank.ofNat 180) : millisOf rank ≤ 180000 := by
  have greatest : millisOf (Rank.ofNat 180) = 180000 := millisOf_ofNat (by decide)
  rw [← greatest]
  exact millisOf_mono most

/-- A magnitude lies between its whole seconds and the next one. -/
theorem ofNat_secondsOf_le (most : rank ≤ Rank.ofNat 180) :
    Rank.ofNat (secondsOf rank) ≤ rank ∧ rank ≤ Rank.ofNat (secondsOf rank + 1) := by
  have few := secondsOf_le most
  have binades : 2 * binadeSize = 9007199254740992 := rfl
  have split := Nat.lt_div_mul_add (b := unitsPerOne) (a := rank.units) unitsPerOne_pos
  constructor
  · rw [← Rank.units_le_units, Rank.units_ofNat (by omega)]
    exact Nat.div_mul_le_self _ _
  · rw [← Rank.units_le_units, Rank.units_ofNat (by omega), Nat.add_mul, Nat.one_mul]
    exact Nat.le_of_lt split

/-- The milliseconds of a magnitude are those of its whole seconds and up to a thousand more. -/
theorem millisOf_bounds (most : rank ≤ Rank.ofNat 180) :
    1000 * secondsOf rank ≤ millisOf rank ∧ millisOf rank ≤ 1000 * secondsOf rank + 1000 := by
  have few := secondsOf_le most
  have binades : 2 * binadeSize = 9007199254740992 := rfl
  obtain ⟨below, above⟩ := ofNat_secondsOf_le most
  have low := millisOf_mono below
  have high := millisOf_mono above
  rw [millisOf_ofNat (by omega)] at low high
  exact ⟨low, high⟩

end Magnitude

section Wait

variable {parameters : Parameters} {negative : Bool} {rank : Rank}

theorem floor_wait (most : rank ≤ Rank.ofNat 180) (unsigned : negative = true → rank = .zero) :
    (Binary64.number negative rank).floor = .ofRatio negative (secondsOf rank) 1 := by
  have finite : rank ≠ .infinity := Rank.ne_infinity_of_le most (by decide)
  cases negative with
  | false => rw [Binary64.floor, if_neg finite, if_neg Bool.false_ne_true, secondsOf]
  | true =>
      have one := unitsPerOne_pos
      have noUnits : Rank.zero.units = 0 := rfl
      rw [Binary64.floor, if_neg finite, if_pos rfl, secondsOf, unsigned rfl, noUnits, Nat.zero_add,
        Nat.zero_div, Nat.div_eq_of_lt (Nat.sub_lt one Nat.one_pos)]

theorem round_wait (most : rank ≤ Rank.ofNat 180) :
    ((Binary64.number negative rank).mul (.ofNat 1000)).round =
      .ofRatio negative (millisOf rank) 1 := by
  have finite : rank ≠ .infinity := Rank.ne_infinity_of_le most (by decide)
  have thousand : Rank.ofNat 1000 ≠ .infinity :=
    Fin.ne_of_lt (Rank.ofNat_lt_infinity (by decide))
  have product : (Binary64.number negative rank).mul (.ofNat 1000) =
      .number (negative != false)
        (.nearest (rank.units * (Rank.ofNat 1000).units) unitsPerOne) := by
    change (if rank = .infinity ∨ Rank.ofNat 1000 = .infinity then _ else _) = _
    rw [if_neg (not_or_intro finite thousand)]
    rfl
  have below : Rank.nearest (rank.units * (Rank.ofNat 1000).units) unitsPerOne ≠ .infinity := by
    apply Rank.ne_infinity_of_le _ (show 180000 ≤ 2 * binadeSize by decide)
    apply Rank.nearest_le_of_le unitsPerOne_pos
    have longest := Rank.units_le_units.mpr most
    rw [Rank.units_ofNat (by decide)] at longest
    rw [Rank.units_ofNat (by decide), Rank.units_ofNat (by decide)]
    calc rank.units * (1000 * unitsPerOne)
        ≤ 180 * unitsPerOne * (1000 * unitsPerOne) := Nat.mul_le_mul_right _ longest
      _ = 180000 * unitsPerOne * unitsPerOne := by ring
  rw [product, Binary64.round, if_neg below, Bool.bne_false, millisOf]

theorem toNat_wholeWaitSeconds (wait : parameters.waitSeconds = .number negative rank)
    (most : rank ≤ Rank.ofNat 180) (unsigned : negative = true → rank = .zero) :
    parameters.wholeWaitSeconds.toNat = secondsOf rank := by
  rw [wholeWaitSeconds, wait, floor_wait most unsigned]
  apply Binary64.toNat_toUInt32_ofRatio (Nat.le_trans (secondsOf_le most) (by decide))
  intro signed
  rw [unsigned signed, secondsOf_zero]

theorem toNat_waitMillis (wait : parameters.waitSeconds = .number negative rank)
    (most : rank ≤ Rank.ofNat 180) (unsigned : negative = true → rank = .zero) :
    parameters.waitMillis.toNat = millisOf rank := by
  rw [waitMillis, wait, round_wait most]
  apply Binary64.toNat_toUInt32_ofRatio (Nat.le_trans (millisOf_le most) (by decide))
  intro signed
  rw [unsigned signed, millisOf_zero]

/-- A wait takes at most 180000 milliseconds. -/
theorem waitMillis_le (within : waitInBounds parameters.waitSeconds = true) :
    parameters.waitMillis.toNat ≤ 180000 := by
  obtain ⟨negative, rank, wait, most, unsigned⟩ := exists_magnitude within
  rw [toNat_waitMillis wait most unsigned]
  exact millisOf_le most

/-- A repeat count is at most 180. -/
theorem wholeWaitSeconds_le (within : waitInBounds parameters.waitSeconds = true) :
    parameters.wholeWaitSeconds.toNat ≤ 180 := by
  obtain ⟨negative, rank, wait, most, unsigned⟩ := exists_magnitude within
  rw [toNat_wholeWaitSeconds wait most unsigned]
  exact secondsOf_le most

end Wait

/-! ## Typed values -/

theorem ofValues_eq_ok_iff {speed : Int16} {brightness : UInt8} {wait : Binary64}
    {parameters : Parameters} :
    ofValues speed brightness wait = .ok parameters ↔
      parameters = ⟨speed, brightness, wait⟩ ∧ parameters.WF := by
  rw [ofValues]
  cases fast : speedInBounds speed with
  | false =>
      refine iff_of_false (by simp) ?_
      rintro ⟨rfl, bounded, -⟩
      exact absurd bounded (by simp [fast])
  | true =>
      cases long : waitInBounds wait with
      | false =>
          refine iff_of_false (by simp) ?_
          rintro ⟨rfl, -, bounded⟩
          exact absurd bounded (by simp [long])
      | true =>
          constructor
          · intro accepted
            cases accepted
            exact ⟨rfl, fast, long⟩
          · rintro ⟨rfl, -⟩
            rfl

end Parameters

end Rover
