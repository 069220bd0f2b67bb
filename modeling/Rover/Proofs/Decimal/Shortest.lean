import Mathlib.Data.List.Basic
import Rover.Decimal.Shortest
import Rover.Proofs.Binary64.Nearest

/-!
# Shortest digits read back

Seventeen digits are enough for every magnitude: the neighbours of a magnitude are at least one part
in two to the power 53 of it away, which is more than one step of a grid of seventeen digits. So the
search for the shortest decimal always finds one, and what it finds reads back as the magnitude.
-/

namespace Rover

theorem tenTo_add (first second : Nat) : tenTo (first + second) = tenTo first * tenTo second :=
  Nat.pow_add 10 first second

theorem tenTo_le_tenTo {first second : Nat} (ordered : first ≤ second) :
    tenTo first ≤ tenTo second :=
  Nat.pow_le_pow_right (by decide) ordered

theorem lt_of_tenTo_lt_tenTo {first second : Nat} (less : tenTo first < tenTo second) :
    first < second :=
  (Nat.pow_lt_pow_iff_right (by decide)).mp less

theorem digitCount_pos (value : Nat) : 0 < digitCount value := by
  rw [digitCount]
  split <;> omega

/-- A number of so many digits lies between two powers of ten. -/
theorem digitCount_bounds {value : Nat} (positive : 0 < value) :
    tenTo (digitCount value - 1) ≤ value ∧ value < tenTo (digitCount value) := by
  induction value using digitCount.induct with
  | case1 value small =>
      rw [digitCount, if_pos small]
      exact ⟨positive, small⟩
  | case2 value large ih =>
      obtain ⟨least, greatest⟩ := ih (Nat.div_pos (Nat.le_of_not_lt large) (by decide))
      have positive := digitCount_pos (value / 10)
      obtain ⟨count, counted⟩ := Nat.exists_eq_succ_of_ne_zero (Nat.ne_of_gt positive)
      rw [counted, Nat.succ_sub_one] at least
      rw [counted, tenTo_succ] at greatest
      rw [digitCount, if_neg large, counted, Nat.add_sub_cancel, tenTo_succ, tenTo_succ]
      rw [tenTo_succ] at *
      omega

namespace Tie

/-- Rounding gives one of the two neighbours. -/
theorem round_cases (tie : Tie) (numerator denominator : Nat) :
    tie.round numerator denominator = numerator / denominator ∨
      tie.round numerator denominator = numerator / denominator + 1 := by
  simp only [round]
  split
  · exact .inl rfl
  · split
    · exact .inr rfl
    · split
      · exact .inr rfl
      · exact .inl rfl

end Tie

namespace Decimal

/-- Away from what is settled without computing the power, a decimal is rounded once. -/
theorem toBinary64_eq {negative : Bool} {significand : Nat} {exponent : Int}
    (nonzero : significand ≠ 0) (least : -330 ≤ exponent + (significand.log2 + 1 : Nat))
    (greatest : exponent ≤ 310) :
    toBinary64 ⟨negative, significand, exponent⟩ =
      .number negative (.nearest (significand * (unitsPerOne * tenTo exponent.toNat))
        (tenTo (-exponent).toNat)) := by
  rw [toBinary64, if_neg nonzero, if_neg (Int.not_lt.mpr greatest), if_neg (Int.not_lt.mpr least)]
  by_cases whole : 0 ≤ exponent
  · have below : (-exponent).toNat = 0 := by omega
    rw [if_pos whole, below, Binary64.ofRatio, tenTo_zero, Nat.mul_assoc,
      Nat.mul_comm unitsPerOne]
  · have above : exponent.toNat = 0 := by omega
    rw [if_neg whole, above, tenTo_zero, Nat.mul_one, Binary64.ofRatio]

/-- What reads back as a finite magnitude above zero was rounded to it. -/
theorem nearest_of_toBinary64 {negative negative' : Bool} {significand : Nat} {exponent : Int}
    {rank : Rank} (nonzero : rank ≠ .zero) (finite : rank ≠ .infinity)
    (back : toBinary64 ⟨negative, significand, exponent⟩ = .number negative' rank) :
    significand ≠ 0 ∧ exponent ≤ 310 ∧ negative = negative' ∧
      Rank.nearest (significand * (unitsPerOne * tenTo exponent.toNat))
        (tenTo (-exponent).toNat) = rank := by
  have zero : ∀ {sign : Bool}, Binary64.number sign .zero ≠ .number negative' rank := by
    rintro sign same
    exact nonzero (Binary64.number.inj same).2.symm
  rcases eq_or_ne significand 0 with isZero | nonzero'
  · rw [toBinary64, if_pos isZero] at back
    exact absurd back zero
  by_cases large : 310 < exponent
  · rw [toBinary64, if_neg nonzero', if_pos large] at back
    exact absurd (Binary64.number.inj back).2.symm finite
  by_cases small : exponent + (significand.log2 + 1 : Nat) < -330
  · rw [toBinary64, if_neg nonzero', if_neg large, if_pos small] at back
    exact absurd back zero
  rw [toBinary64_eq nonzero' (Int.not_lt.mp small) (Int.not_lt.mp large)] at back
  exact ⟨nonzero', Int.not_lt.mp large, (Binary64.number.inj back).1, (Binary64.number.inj back).2⟩

end Decimal

namespace Rank

theorem inSteps_eq (rank : Rank) (exponent : Int) :
    rank.inSteps exponent =
      (rank.units * tenTo (-exponent).toNat, unitsPerOne * tenTo exponent.toNat) := by
  rw [inSteps]
  split
  next whole =>
    have below : (-exponent).toNat = 0 := by omega
    rw [below, tenTo_zero, Nat.mul_one]
  next fractional =>
    have above : exponent.toNat = 0 := by omega
    rw [above, tenTo_zero, Nat.mul_one]

theorem units_pos {rank : Rank} (nonzero : rank ≠ .zero) : 0 < rank.units := by
  have above : Rank.zero < rank := by
    rw [Fin.lt_def]
    have other : rank.val ≠ 0 := fun isZero => nonzero (Fin.ext isZero)
    exact Nat.pos_of_ne_zero other
  exact units_lt_units.mpr above

variable {rank : Rank} {tie : Tie} {exponent : Int} {numerator denominator : Nat}

/-- What a grid gives reads back, and is one of the two neighbours. -/
theorem onGrid?_eq_some (steps : rank.inSteps exponent = (numerator, denominator))
    {decimal : Decimal} (found : rank.onGrid? tie exponent = some decimal) :
    decimal.toBinary64 = .number false rank ∧ decimal.negative = false ∧
      decimal.significand ≤ numerator / denominator + 1 := by
  simp only [onGrid?, steps] at found
  split at found
  next lower upper =>
    have back := of_decide_eq_true lower
    have back' := of_decide_eq_true upper
    obtain rfl := Option.some.inj found
    rcases tie.round_cases numerator denominator with same | same
    · rw [same]
      exact ⟨back, rfl, Nat.le_succ _⟩
    · rw [same]
      exact ⟨back', rfl, Nat.le_refl _⟩
  next lower _ =>
    obtain rfl := Option.some.inj found
    exact ⟨of_decide_eq_true lower, rfl, Nat.le_succ _⟩
  next _ upper =>
    obtain rfl := Option.some.inj found
    exact ⟨of_decide_eq_true upper, rfl, Nat.le_refl _⟩
  next => cases found

/-- A grid finds something if rounding to it reads back. -/
theorem isSome_onGrid? (steps : rank.inSteps exponent = (numerator, denominator))
    (back : Decimal.toBinary64 ⟨false, tie.round numerator denominator, exponent⟩ =
      .number false rank) : (rank.onGrid? tie exponent).isSome = true := by
  simp only [onGrid?, steps]
  split
  · rfl
  · rfl
  · rfl
  next lower upper =>
    have unread : Decimal.toBinary64 ⟨false, numerator / denominator, exponent⟩ ≠
      .number false rank := of_decide_eq_false lower
    have unread' : Decimal.toBinary64 ⟨false, numerator / denominator + 1, exponent⟩ ≠
      .number false rank := of_decide_eq_false upper
    rcases tie.round_cases numerator denominator with same | same
    · rw [same] at back
      exact absurd back unread
    · rw [same] at back
      exact absurd back unread'

/-! ## Seventeen digits -/

/-- The leading digit of a magnitude stands between two powers of ten. -/
theorem exists_leading (nonzero : rank ≠ .zero) :
    ∃ leading : Nat, rank.leadingExponent = (leading : Int) - 400 ∧ 76 ≤ leading ∧
      tenTo leading * unitsPerOne ≤ rank.units * tenTo 400 ∧
      rank.units * tenTo 400 < tenTo (leading + 1) * unitsPerOne := by
  let whole := rank.units * tenTo 400 / unitsPerOne
  have large : tenTo 76 ≤ whole := by
    have least : tenTo 76 * unitsPerOne ≤ tenTo 400 := by decide +kernel
    rw [Nat.le_div_iff_mul_le unitsPerOne_pos]
    exact Nat.le_trans least (Nat.le_mul_of_pos_left _ (units_pos nonzero))
  obtain ⟨least, greatest⟩ := digitCount_bounds (Nat.lt_of_lt_of_le (tenTo_pos 76) large)
  obtain ⟨leading, counted⟩ := Nat.exists_eq_succ_of_ne_zero (Nat.ne_of_gt (digitCount_pos whole))
  rw [counted] at least greatest
  refine ⟨leading, ?_, ?_, ?_, ?_⟩
  · change (digitCount whole : Int) - 401 = _
    rw [counted]
    omega
  · exact Nat.le_of_lt_succ (lt_of_tenTo_lt_tenTo (Nat.lt_of_le_of_lt large greatest))
  · exact (Nat.le_div_iff_mul_le unitsPerOne_pos).mp least
  · exact (Nat.div_lt_iff_lt_mul unitsPerOne_pos).mp greatest

/-- Both sides of the fraction in steps stand for the same value. -/
theorem inSteps_cross (steps : rank.inSteps exponent = (numerator, denominator))
    {above below : Nat} (split : exponent = (above : Int) - below) :
    numerator * (unitsPerOne * tenTo above) = denominator * (rank.units * tenTo below) := by
  rw [inSteps_eq] at steps
  obtain ⟨rfl, rfl⟩ := Prod.mk.inj steps
  have balance : (-exponent).toNat + above = exponent.toNat + below := by omega
  have powers : tenTo (-exponent).toNat * tenTo above = tenTo exponent.toNat * tenTo below := by
    rw [← tenTo_add, balance, tenTo_add]
  calc rank.units * tenTo (-exponent).toNat * (unitsPerOne * tenTo above)
      = rank.units * unitsPerOne * (tenTo (-exponent).toNat * tenTo above) := by ring
    _ = rank.units * unitsPerOne * (tenTo exponent.toNat * tenTo below) := by rw [powers]
    _ = unitsPerOne * tenTo exponent.toNat * (rank.units * tenTo below) := by ring

theorem inSteps_pos (steps : rank.inSteps exponent = (numerator, denominator)) :
    0 < denominator := by
  rw [inSteps_eq] at steps
  rw [← (Prod.mk.inj steps).2]
  exact Nat.mul_pos unitsPerOne_pos (tenTo_pos _)

/-- In steps of the digit `count` places after the leading one, a magnitude has `count + 1` digits
before the point. -/
theorem inSteps_bounds (nonzero : rank ≠ .zero) {count : Nat}
    (steps : rank.inSteps (rank.leadingExponent - count) = (numerator, denominator)) :
    denominator * tenTo count ≤ numerator ∧ numerator < denominator * tenTo (count + 1) := by
  obtain ⟨leading, exponent_eq, -, least, greatest⟩ := exists_leading nonzero
  have cross : numerator * (unitsPerOne * tenTo (leading + 1)) =
      denominator * (rank.units * tenTo (401 + count)) := by
    apply inSteps_cross steps
    rw [exponent_eq]
    omega
  have positive := inSteps_pos steps
  have unit : 0 < unitsPerOne * tenTo (leading + 1) := Nat.mul_pos unitsPerOne_pos (tenTo_pos _)
  have places : tenTo (401 + count) = tenTo 400 * tenTo (count + 1) := by
    rw [← tenTo_add]
    exact congrArg tenTo (by omega)
  rw [places] at cross
  generalize tenTo 400 = far at *
  constructor
  · apply Nat.le_of_mul_le_mul_right _ unit
    calc denominator * tenTo count * (unitsPerOne * tenTo (leading + 1))
        = denominator * (tenTo leading * unitsPerOne) * tenTo (count + 1) := by
          rw [tenTo_succ, tenTo_succ]; ring
      _ ≤ denominator * (rank.units * far) * tenTo (count + 1) :=
          Nat.mul_le_mul_right _ (Nat.mul_le_mul_left _ least)
      _ = numerator * (unitsPerOne * tenTo (leading + 1)) := by rw [cross]; ring
  · apply Nat.lt_of_mul_lt_mul_right (a := unitsPerOne * tenTo (leading + 1))
    calc numerator * (unitsPerOne * tenTo (leading + 1))
        = denominator * tenTo (count + 1) * (rank.units * far) := by rw [cross]; ring
      _ < denominator * tenTo (count + 1) * (tenTo (leading + 1) * unitsPerOne) :=
          Nat.mul_lt_mul_of_pos_left greatest (Nat.mul_pos positive (tenTo_pos _))
      _ = denominator * tenTo (count + 1) * (unitsPerOne * tenTo (leading + 1)) := by ring

/-- A decimal is nearest to a magnitude if it is at most half a step of a fine grid away from it:
one of which there are more than two to the power 53 steps to the magnitude. -/
theorem isNearest_of_close {significand step : Nat}
    (fine : step * (2 * binadeSize) < rank.units * denominator)
    (down : 2 * (rank.units * denominator) ≤ 2 * (significand * step) + step)
    (up : 2 * (significand * step) ≤ 2 * (rank.units * denominator) + step) :
    IsNearest (significand * step) denominator rank.val := by
  have size := binadeSize_pos
  rw [units_eq] at *
  -- a step of the grid of magnitudes is wider than a step of the decimals
  have wider : ∀ gap, unitsAt rank.val ≤ 2 * binadeSize * gap → step < gap * denominator := by
    intro gap wide
    apply Nat.lt_of_mul_lt_mul_right (a := 2 * binadeSize)
    calc step * (2 * binadeSize) < unitsAt rank.val * denominator := fine
      _ ≤ 2 * binadeSize * gap * denominator := Nat.mul_le_mul_right _ wide
      _ = gap * denominator * (2 * binadeSize) := by ring
  apply IsNearest.of_between
  · have less := unitsAt_lt_succ rank.val
    have gap := wider (unitsAt (rank.val + 1) - unitsAt rank.val)
      (Nat.le_trans (Nat.le_of_lt less) (unitsAt_succ_le rank.val))
    rw [Nat.sub_mul] at gap
    rw [Nat.add_mul]
    omega
  · intro lower next
    have less := unitsAt_lt_succ lower
    have gap := wider (unitsAt (lower + 1) - unitsAt lower) (by
      rw [next]
      exact unitsAt_succ_le lower)
    rw [← next, Nat.sub_mul] at gap
    rw [Nat.add_mul]
    omega

theorem leadingExponent_bounds (nonzero : rank ≠ .zero) (finite : rank ≠ .infinity) :
    -324 ≤ rank.leadingExponent ∧ rank.leadingExponent ≤ 309 := by
  obtain ⟨leading, exponent_eq, large, least, -⟩ := exists_leading nonzero
  have greatest : tenTo leading * unitsPerOne < tenTo 709 * unitsPerOne := by
    calc tenTo leading * unitsPerOne ≤ rank.units * tenTo 400 := least
      _ < Rank.infinity.units * tenTo 400 :=
          Nat.mul_lt_mul_of_pos_right (units_lt_units.mpr (lt_infinity finite)) (tenTo_pos 400)
      _ ≤ tenTo 709 * unitsPerOne := by decide +kernel
  have fits := lt_of_tenTo_lt_tenTo (Nat.lt_of_mul_lt_mul_right greatest)
  omega

/-- With seventeen digits a neighbour of the magnitude reads back. -/
theorem isSome_onGrid?_seventeenth (nonzero : rank ≠ .zero) (finite : rank ≠ .infinity)
    (tie : Tie) :
    (rank.onGrid? tie (rank.leadingExponent - (16 : Nat))).isSome = true := by
  obtain ⟨low, high⟩ := leadingExponent_bounds nonzero finite
  cases steps : rank.inSteps (rank.leadingExponent - (16 : Nat)) with
  | mk numerator denominator =>
      have positive := inSteps_pos steps
      have bounds := (inSteps_bounds nonzero steps).1
      have long : tenTo 16 ≤ tie.round numerator denominator := by
        have whole : tenTo 16 ≤ numerator / denominator :=
          (Nat.le_div_iff_mul_le positive).mpr (by rwa [Nat.mul_comm])
        rcases tie.round_cases numerator denominator with same | same
        · rwa [same]
        · rw [same]
          exact Nat.le_succ_of_le whole
      have nonzero' : tie.round numerator denominator ≠ 0 :=
        Nat.ne_of_gt (Nat.lt_of_lt_of_le (tenTo_pos 16) long)
      have digits : 53 ≤ (tie.round numerator denominator).log2 := by
        rw [Nat.le_log2 nonzero']
        exact Nat.le_trans (by decide) long
      have fine : denominator * (2 * binadeSize) < numerator := by
        have finer : 2 * binadeSize < tenTo 16 := by decide
        exact Nat.lt_of_lt_of_le (Nat.mul_lt_mul_of_pos_left finer positive) bounds
      have down := tie.le_round numerator denominator positive
      have up := tie.round_le numerator denominator positive
      apply isSome_onGrid? steps
      rw [Decimal.toBinary64_eq nonzero' (by omega) (by omega)]
      generalize rank.leadingExponent - (16 : Nat) = exponent at steps ⊢
      rw [inSteps_eq] at steps
      obtain ⟨rfl, rfl⟩ := Prod.mk.inj steps
      apply congrArg
      apply nearest_eq_of_isNearest (tenTo_pos _)
      exact isNearest_of_close fine down up

/-- The shortest decimal of a finite magnitude above zero reads back as it and has at most
seventeen digits. -/
theorem shortest_readsBack (nonzero : rank ≠ .zero) (finite : rank ≠ .infinity) (tie : Tie) :
    (rank.shortest tie).toBinary64 = .number false rank ∧
      (rank.shortest tie).negative = false ∧ (rank.shortest tie).significand ≤ tenTo 17 := by
  have last := isSome_onGrid?_seventeenth nonzero finite tie
  cases search : (List.range 17).findSome? fun (count : Nat) =>
      rank.onGrid? tie (rank.leadingExponent - count) with
  | none =>
      rw [List.findSome?_eq_none_iff] at search
      rw [search 16 (by decide)] at last
      cases last
  | some decimal =>
      have shortest : rank.shortest tie = decimal := by
        rw [Rank.shortest, search, Option.getD_some]
      obtain ⟨count, among, found⟩ := List.exists_of_findSome?_eq_some search
      rw [shortest]
      cases steps : rank.inSteps (rank.leadingExponent - (count : Nat)) with
      | mk numerator denominator =>
          obtain ⟨back, positive, neighbour⟩ := onGrid?_eq_some steps found
          have less := (inSteps_bounds nonzero steps).2
          rw [Nat.mul_comm] at less
          have whole := (Nat.div_lt_iff_lt_mul (inSteps_pos steps)).mpr less
          refine ⟨back, positive, Nat.le_trans neighbour ?_⟩
          exact Nat.le_trans whole (tenTo_le_tenTo (List.mem_range.mp among))

end Rank

end Rover
