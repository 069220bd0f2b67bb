import Rover.Proofs.Session.Parameters

/-!
# Derived values of the wait

A wait gives whole seconds, which some commands take for a repeat count, and milliseconds. The one
is rounded down and the other is rounded twice to the nearest, so they are compared through what
both of them do with the order of waits.
-/

namespace Rover

namespace Binary64

/-- The value is a finite number from the given integer up to the next one, which it does not
reach. -/
def HasWhole (value : Binary64) (number : Int) : Prop :=
  ∃ negative rank, value = .number negative rank ∧ rank ≠ .infinity ∧
    number * unitsPerOne ≤ signedUnits negative rank ∧
    signedUnits negative rank < (number + 1) * unitsPerOne

variable {negative : Bool} {rank : Rank}

/-- The sign of a zero counts neither for its value nor for its place. -/
theorem signedUnits_of_unsigned (unsigned : negative = true → rank = .zero) :
    signedUnits negative rank = rank.units := by
  cases negative with
  | false => rfl
  | true =>
      rw [unsigned rfl]
      rfl

theorem place_of_unsigned (unsigned : negative = true → rank = .zero) :
    place negative rank = rank.val := by
  cases negative with
  | false => rfl
  | true =>
      rw [unsigned rfl]
      rfl

theorem is_of_unsigned {whole : Nat} (fits : whole ≤ 2 * binadeSize)
    (unsigned : negative = true → whole = 0) : (ofRatio negative whole 1).Is whole := by
  have unrounded := is_ofRatio negative fits
  cases negative with
  | false => exact unrounded
  | true =>
      rw [unsigned rfl] at unrounded ⊢
      exact unrounded

end Binary64

namespace Parameters

/-- The parameters are accepted as typed values or as entries. -/
inductive Accepted (parameters : Parameters) : Prop
  | typed {speed : Int16} {brightness : UInt8} {wait : Binary64}
      (accepted : ofValues speed brightness wait = .ok parameters)
  | entered {speed brightness wait : String}
      (accepted : ofEntries speed brightness wait = .ok parameters)

/-- Both ways to parameters look at the wait. -/
theorem Accepted.waitInBounds {parameters : Parameters} (accepted : Accepted parameters) :
    waitInBounds parameters.waitSeconds = true := by
  cases accepted with
  | typed accepted => exact (ofValues_eq_ok_iff.mp accepted).2.2
  | entered accepted => exact (wf_of_ofEntries accepted).2

section Magnitude

variable {negative : Bool} {rank : Rank}

theorem hasWhole_secondsOf (most : rank ≤ Rank.ofNat 180)
    (unsigned : negative = true → rank = .zero) :
    (Binary64.number negative rank).HasWhole (secondsOf rank) := by
  refine ⟨negative, rank, rfl, Rank.ne_infinity_of_le most (by decide), ?_⟩
  have below : secondsOf rank * unitsPerOne ≤ rank.units := Nat.div_mul_le_self _ _
  have above : rank.units < (secondsOf rank + 1) * unitsPerOne := by
    rw [Nat.add_mul, Nat.one_mul]
    exact Nat.lt_div_mul_add unitsPerOne_pos
  rw [Binary64.signedUnits_of_unsigned unsigned]
  exact ⟨by exact_mod_cast below, by exact_mod_cast above⟩

theorem is_floor (most : rank ≤ Rank.ofNat 180) (unsigned : negative = true → rank = .zero) :
    (Binary64.number negative rank).floor.Is (secondsOf rank) := by
  rw [floor_wait most unsigned]
  apply Binary64.is_of_unsigned (Nat.le_trans (secondsOf_le most) (by decide))
  intro signed
  rw [unsigned signed, secondsOf_zero]

theorem is_round (most : rank ≤ Rank.ofNat 180) (unsigned : negative = true → rank = .zero) :
    ((Binary64.number negative rank).mul (.ofNat 1000)).round.Is (millisOf rank) := by
  rw [round_wait most]
  apply Binary64.is_of_unsigned (Nat.le_trans (millisOf_le most) (by decide))
  intro signed
  rw [unsigned signed, millisOf_zero]

end Magnitude

/-- However parameters are accepted, their whole seconds are the integer from which on the wait
lies up to the next one, and at most 180. Their milliseconds are at most 180000, and at least those
of the whole seconds and at most those of one second more. Neither is cut off by its word: both are
what the whole number before the conversion is. A longer wait has no fewer of either. -/
theorem wait_values_agree {parameters : Parameters} (accepted : Accepted parameters) :
    let seconds := parameters.wholeWaitSeconds.toNat
    let millis := parameters.waitMillis.toNat
    (parameters.waitSeconds.HasWhole seconds ∧ seconds ≤ 180) ∧ millis ≤ 180000 ∧
    (1000 * seconds ≤ millis ∧ millis ≤ 1000 * seconds + 1000) ∧
    (parameters.waitSeconds.floor.Is seconds ∧
      (parameters.waitSeconds.mul (.ofNat 1000)).round.Is millis) ∧
    ∀ longer : Parameters, Accepted longer → parameters.waitSeconds ≤ longer.waitSeconds →
      seconds ≤ longer.wholeWaitSeconds.toNat ∧ millis ≤ longer.waitMillis.toNat := by
  obtain ⟨negative, rank, wait, most, unsigned⟩ := exists_magnitude accepted.waitInBounds
  rw [toNat_wholeWaitSeconds wait most unsigned, toNat_waitMillis wait most unsigned, wait]
  refine ⟨⟨hasWhole_secondsOf most unsigned, secondsOf_le most⟩, millisOf_le most,
    millisOf_bounds most, ⟨is_floor most unsigned, is_round most unsigned⟩, ?_⟩
  intro longer accepted ordered
  obtain ⟨negative', rank', wait', most', unsigned'⟩ := exists_magnitude accepted.waitInBounds
  rw [wait', Binary64.number_le_number, Binary64.place_of_unsigned unsigned,
    Binary64.place_of_unsigned unsigned', Int.ofNat_le] at ordered
  rw [toNat_wholeWaitSeconds wait' most' unsigned', toNat_waitMillis wait' most' unsigned']
  exact ⟨secondsOf_mono ordered, millisOf_mono ordered⟩

/-- Parameters with the longest wait below three seconds. -/
def nearlyThree : Parameters := ⟨100, 128, .ofRatio false 6755399441055743 (twoTo 51)⟩

/-- The longest wait below three seconds still has two whole ones, and is rounded to three thousand
milliseconds. A zero with a minus sign is a shorter wait, and it has none of either. -/
theorem wait_values_agree_nearlyThree :
    ofEntries "100" "128" "2.9999999999999996" = .ok nearlyThree ∧
      ofValues 0 0 .negativeZero = .ok ⟨0, 0, .negativeZero⟩ ∧
      nearlyThree.wholeWaitSeconds = 2 ∧ nearlyThree.waitMillis = 3000 ∧
      nearlyThree.waitSeconds.HasWhole nearlyThree.wholeWaitSeconds.toNat ∧
      (⟨0, 0, .negativeZero⟩ : Parameters).waitMillis.toNat ≤ nearlyThree.waitMillis.toNat := by
  have entered : ofEntries "100" "128" "2.9999999999999996" = .ok nearlyThree := by decide +kernel
  have typed : ofValues 0 0 .negativeZero = .ok ⟨0, 0, .negativeZero⟩ := by decide +kernel
  have seconds : nearlyThree.wholeWaitSeconds = 2 := by decide +kernel
  have millis : nearlyThree.waitMillis = 3000 := by decide +kernel
  have shorter : Binary64.negativeZero ≤ nearlyThree.waitSeconds := by decide +kernel
  obtain ⟨⟨whole, -⟩, -⟩ := wait_values_agree (.entered entered)
  obtain ⟨-, -, -, -, longer⟩ := wait_values_agree (.typed typed)
  exact ⟨entered, typed, seconds, millis, whole, (longer nearlyThree (.entered entered) shorter).2⟩

end Parameters

end Rover
