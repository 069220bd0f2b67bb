import Rover.Proofs.Binary64.Grid

/-!
# The nearest magnitude

Rounding takes a fraction to the place of the grid whose neighbours are both farther away, or as
far if the place is even. There is just one such place, and from this follow that magnitudes
round to themselves and that rounding keeps the order.
-/

namespace Rover

/-- Of a half that was rounded, up or down, the result is even. -/
theorem Tie.even_of_half {numerator denominator : Nat} (positive : 0 < denominator)
    (half : 2 * (Tie.toEven.round numerator denominator * denominator) =
        2 * numerator + denominator ∨
      2 * numerator =
        2 * (Tie.toEven.round numerator denominator * denominator) + denominator) :
    Tie.toEven.round numerator denominator % 2 = 0 := by
  have split := Nat.div_add_mod numerator denominator
  have short := Nat.mod_lt numerator positive
  have raised := Nat.add_mul (numerator / denominator) 1 denominator
  rw [Nat.mul_comm] at split
  simp only [Tie.round] at half ⊢
  by_cases lower : 2 * (numerator % denominator) < denominator
  · rw [if_pos lower] at half
    omega
  · by_cases upper : denominator < 2 * (numerator % denominator)
    · rw [if_neg lower, if_pos upper] at half
      omega
    · rw [if_neg lower, if_neg upper, raises]
      by_cases odd : numerator / denominator % 2 = 1
      · simp only [odd, beq_self_eq_true, if_true]
        omega
      · simp only [beq_iff_eq, odd, if_false]
        omega

namespace Rank

/-- The place is the nearest one to `numerator / denominator` units. All is doubled, because a
half of a step has to be compared with. -/
structure IsNearest (numerator denominator place : Nat) : Prop where
  below : 2 * numerator ≤ (unitsAt place + unitsAt (place + 1)) * denominator
  above : ∀ lower, place = lower + 1 →
    (unitsAt lower + unitsAt place) * denominator ≤ 2 * numerator
  even_of_below :
    2 * numerator = (unitsAt place + unitsAt (place + 1)) * denominator → place % 2 = 0
  even_of_above : ∀ lower, place = lower + 1 →
    (unitsAt lower + unitsAt place) * denominator = 2 * numerator → place % 2 = 0

/-- The place that rounding gives before infinity is taken for all that is too great. -/
def nearestPlace (numerator denominator : Nat) : Nat :=
  let shift := (numerator / denominator).log2 - 52
  shift * binadeSize + Tie.toEven.round numerator (denominator * twoTo shift)

theorem val_nearest (numerator denominator : Nat) :
    (nearest numerator denominator).val =
      min (nearestPlace numerator denominator) infinityRank := rfl

/-- The power of two is chosen so that the quotient is less than two binades of its units, and
at least one binade unless the power is zero. -/
theorem quotient_bounds (numerator : Nat) {denominator : Nat} (positive : 0 < denominator) :
    let units := denominator * twoTo ((numerator / denominator).log2 - 52)
    numerator < 2 * binadeSize * units ∧
      ((numerator / denominator).log2 - 52 = 0 ∨ binadeSize * units ≤ numerator) := by
  intro units
  have less : numerator < 2 ^ ((numerator / denominator).log2 + 1) * denominator :=
    (Nat.div_lt_iff_lt_mul positive).mp Nat.lt_log2_self
  have binades : 2 * binadeSize = 2 ^ 53 := by decide
  constructor
  · refine Nat.lt_of_lt_of_le less ?_
    have fits : (2 : Nat) ^ ((numerator / denominator).log2 + 1) ≤
        2 ^ (53 + ((numerator / denominator).log2 - 52)) :=
      Nat.pow_le_pow_right (by decide) (by omega)
    rw [Nat.pow_add 2 53, ← binades] at fits
    calc 2 ^ ((numerator / denominator).log2 + 1) * denominator
        ≤ 2 * binadeSize * 2 ^ ((numerator / denominator).log2 - 52) * denominator :=
          Nat.mul_le_mul_right _ fits
      _ = 2 * binadeSize * units := by
          rw [Nat.mul_assoc, Nat.mul_comm _ denominator]
          rfl
  · rcases Nat.eq_zero_or_pos ((numerator / denominator).log2 - 52) with small | large
    · exact .inl small
    · right
      have nonzero : numerator / denominator ≠ 0 := by
        intro isZero
        rw [isZero] at large
        simp at large
      have least := Nat.log2_self_le nonzero
      have exponent : (numerator / denominator).log2 =
          52 + ((numerator / denominator).log2 - 52) := by omega
      rw [exponent, Nat.pow_add] at least
      calc binadeSize * units
          = 2 ^ 52 * 2 ^ ((numerator / denominator).log2 - 52) * denominator := by
            rw [Nat.mul_assoc, Nat.mul_comm _ denominator]
            rfl
        _ ≤ numerator / denominator * denominator := Nat.mul_le_mul_right _ least
        _ ≤ numerator := Nat.div_mul_le_self _ _

/-- The significand that rounding gives fits the power of two. -/
theorem scaled_nearestPlace {numerator denominator : Nat} (positive : 0 < denominator) :
    let shift := (numerator / denominator).log2 - 52
    Scaled (nearestPlace numerator denominator) shift
      (Tie.toEven.round numerator (denominator * twoTo shift)) := by
  intro shift
  have units : 0 < denominator * twoTo shift := Nat.mul_pos positive (twoTo_pos shift)
  obtain ⟨less, least⟩ : numerator < 2 * binadeSize * (denominator * twoTo shift) ∧
      (shift = 0 ∨ binadeSize * (denominator * twoTo shift) ≤ numerator) :=
    quotient_bounds numerator positive
  have up := Tie.toEven.round_le numerator (denominator * twoTo shift) units
  have down := Tie.toEven.le_round numerator (denominator * twoTo shift) units
  refine ⟨rfl, least.imp_right fun least => ?_, ?_⟩
  · by_contra short
    have next := Nat.mul_le_mul_right (denominator * twoTo shift) (Nat.lt_of_not_le short)
    rw [Nat.succ_mul] at next
    omega
  · by_contra long
    have next := Nat.mul_le_mul_right (denominator * twoTo shift) (Nat.lt_of_not_le long)
    rw [Nat.succ_mul] at next
    omega

/-- A binade has an even number of places, so a place is even just if its significand is. -/
theorem Scaled.mod_two {place shift significand : Nat} (scaled : Scaled place shift significand) :
    place % 2 = significand % 2 := by
  have even : binadeSize = 2 * 0x8000000000000 := rfl
  rw [scaled.place_eq, even, ← Nat.mul_assoc, Nat.mul_comm shift 2, Nat.mul_assoc,
    Nat.mul_add_mod]

theorem isNearest_nearestPlace (numerator : Nat) {denominator : Nat}
    (positive : 0 < denominator) :
    IsNearest numerator denominator (nearestPlace numerator denominator) := by
  let shift := (numerator / denominator).log2 - 52
  let units := denominator * twoTo shift
  let significand := Tie.toEven.round numerator units
  have unitsPos : 0 < units := Nat.mul_pos positive (twoTo_pos shift)
  have scaled : Scaled (nearestPlace numerator denominator) shift significand :=
    scaled_nearestPlace positive
  have down : 2 * numerator ≤ 2 * (significand * units) + units :=
    Tie.toEven.le_round numerator units unitsPos
  have up : 2 * (significand * units) ≤ 2 * numerator + units :=
    Tie.toEven.round_le numerator units unitsPos
  have even : 2 * (significand * units) = 2 * numerator + units ∨
      2 * numerator = 2 * (significand * units) + units →
        nearestPlace numerator denominator % 2 = 0 := by
    rw [scaled.mod_two]
    exact Tie.even_of_half unitsPos
  have here : unitsAt (nearestPlace numerator denominator) * denominator =
      significand * units := by
    rw [scaled.unitsAt_eq, Nat.mul_assoc, Nat.mul_comm (twoTo shift)]
  generalize nearestPlace numerator denominator = place at scaled even here ⊢
  have after : unitsAt place * denominator + units ≤ unitsAt (place + 1) * denominator := by
    have step := Nat.mul_le_mul_right denominator scaled.add_le_unitsAt_succ
    rwa [Nat.add_mul, Nat.mul_comm (twoTo shift)] at step
  have before : ∀ lower, place = lower + 1 →
      unitsAt lower * denominator + units = unitsAt place * denominator ∨
        (unitsAt lower * denominator < unitsAt place * denominator ∧
          significand * units ≤ numerator) := by
    rintro lower rfl
    rcases scaled.pred with step | ⟨least, large⟩
    · left
      rw [← step, Nat.add_mul, Nat.mul_comm (twoTo shift)]
    · right
      refine ⟨Nat.mul_lt_mul_of_pos_right (unitsAt_lt_succ lower) positive, ?_⟩
      rw [least]
      exact (quotient_bounds numerator positive).2.resolve_left (Nat.ne_of_gt large)
  constructor
  · rw [Nat.add_mul]
    omega
  · intro lower next
    rw [Nat.add_mul]
    rcases before lower next with step | ⟨less, large⟩
    · omega
    · omega
  · intro half
    rw [Nat.add_mul] at half
    exact even (.inr (by omega))
  · intro lower next half
    rw [Nat.add_mul] at half
    rcases before lower next with step | ⟨less, large⟩
    · exact even (.inl (by omega))
    · omega

namespace IsNearest

variable {numerator denominator numerator' denominator' place place' : Nat}

/-- A place is nearest if it is nearer than both of its neighbours. -/
theorem of_between
    (below : 2 * numerator < (unitsAt place + unitsAt (place + 1)) * denominator)
    (above : ∀ lower, place = lower + 1 →
      (unitsAt lower + unitsAt place) * denominator < 2 * numerator) :
    IsNearest numerator denominator place where
  below := Nat.le_of_lt below
  above lower next := Nat.le_of_lt (above lower next)
  even_of_below half := absurd half (Nat.ne_of_lt below)
  even_of_above lower next half := absurd half (Nat.ne_of_lt (above lower next))

/-- Magnitudes of the grid are nearest to themselves. -/
theorem self (positive : 0 < denominator) (place : Nat) :
    IsNearest (unitsAt place * denominator) denominator place := by
  have twice := Nat.two_mul (unitsAt place * denominator)
  apply of_between
  · have step := Nat.mul_lt_mul_of_pos_right (unitsAt_lt_succ place) positive
    rw [Nat.add_mul]
    omega
  · rintro lower rfl
    have step := Nat.mul_lt_mul_of_pos_right (unitsAt_lt_succ lower) positive
    rw [Nat.add_mul]
    omega

/-- Rounding keeps the order. Were the place of the smaller fraction above the other place, both
fractions would be the same half between two neighbours, and both neighbours even. -/
theorem mono (nearest : IsNearest numerator denominator place)
    (nearest' : IsNearest numerator' denominator' place') (positive : 0 < denominator)
    (positive' : 0 < denominator')
    (ordered : numerator * denominator' ≤ numerator' * denominator) : place ≤ place' := by
  by_contra crossed
  obtain ⟨lower, rfl⟩ : ∃ lower, place = lower + 1 := ⟨place - 1, by omega⟩
  have above := Nat.mul_le_mul_right denominator' (nearest.above lower rfl)
  have below := Nat.mul_le_mul_right denominator nearest'.below
  have twice : 2 * numerator * denominator' ≤ 2 * numerator' * denominator := by
    rw [Nat.mul_assoc, Nat.mul_assoc]
    exact Nat.mul_le_mul_left 2 ordered
  have halves : unitsAt lower + unitsAt (lower + 1) ≤ unitsAt place' + unitsAt (place' + 1) := by
    apply Nat.le_of_mul_le_mul_right _ (Nat.mul_pos positive positive')
    calc (unitsAt lower + unitsAt (lower + 1)) * (denominator * denominator')
        = (unitsAt lower + unitsAt (lower + 1)) * denominator * denominator' := by ring
      _ ≤ 2 * numerator * denominator' := above
      _ ≤ 2 * numerator' * denominator := twice
      _ ≤ (unitsAt place' + unitsAt (place' + 1)) * denominator' * denominator := below
      _ = (unitsAt place' + unitsAt (place' + 1)) * (denominator * denominator') := by ring
  have same : place' = lower := by
    rcases Nat.lt_or_eq_of_le (show place' ≤ lower by omega) with apart | same
    · have first := unitsAt_strictMono apart
      have second := unitsAt_strictMono.monotone (show place' + 1 ≤ lower + 1 by omega)
      omega
    · exact same
  subst same
  have commuted := Nat.mul_right_comm (unitsAt place' + unitsAt (place' + 1)) denominator'
    denominator
  have even : (place' + 1) % 2 = 0 := by
    apply nearest.even_of_above place' rfl
    apply Nat.eq_of_mul_eq_mul_right positive'
    rw [commuted] at below
    exact Nat.le_antisymm above (Nat.le_trans twice below)
  have even' : place' % 2 = 0 := by
    apply nearest'.even_of_below
    apply Nat.eq_of_mul_eq_mul_right positive
    rw [← commuted] at above
    exact Nat.le_antisymm below (Nat.le_trans above twice)
  omega

theorem unique (nearest : IsNearest numerator denominator place)
    (nearest' : IsNearest numerator denominator place') (positive : 0 < denominator) :
    place = place' :=
  Nat.le_antisymm (nearest.mono nearest' positive positive (Nat.le_refl _))
    (nearest'.mono nearest positive positive (Nat.le_refl _))

end IsNearest

variable {numerator denominator numerator' denominator' : Nat}

theorem nearest_le_nearest (positive : 0 < denominator) (positive' : 0 < denominator')
    (ordered : numerator * denominator' ≤ numerator' * denominator) :
    nearest numerator denominator ≤ nearest numerator' denominator' := by
  rw [Fin.le_def, val_nearest, val_nearest]
  have places := (isNearest_nearestPlace numerator positive).mono
    (isNearest_nearestPlace numerator' positive') positive positive' ordered
  omega

/-- Equal fractions are rounded alike. -/
theorem nearest_congr (positive : 0 < denominator) (positive' : 0 < denominator')
    (same : numerator * denominator' = numerator' * denominator) :
    nearest numerator denominator = nearest numerator' denominator' :=
  Fin.le_antisymm (nearest_le_nearest positive positive' (Nat.le_of_eq same))
    (nearest_le_nearest positive' positive (Nat.le_of_eq same.symm))

/-- A fraction nearest to the place of a rank is rounded to this rank. -/
theorem nearest_eq_of_isNearest {rank : Rank} (positive : 0 < denominator)
    (near : IsNearest numerator denominator rank.val) : nearest numerator denominator = rank := by
  apply Fin.ext
  rw [val_nearest, (isNearest_nearestPlace numerator positive).unique near positive]
  exact Nat.min_eq_left (Nat.le_of_lt_succ rank.isLt)

@[simp] theorem nearest_units (rank : Rank) (positive : 0 < denominator) :
    nearest (rank.units * denominator) denominator = rank :=
  nearest_eq_of_isNearest positive (.self positive rank.val)

theorem nearest_zero (positive : 0 < denominator) : nearest 0 denominator = .zero := by
  have noUnits : Rank.zero.units * denominator = 0 := Nat.zero_mul denominator
  exact (congrArg (nearest · denominator) noUnits.symm).trans (nearest_units .zero positive)

/-- What is at most a magnitude of the grid is rounded to at most this magnitude. -/
theorem nearest_le_of_le {rank : Rank} (positive : 0 < denominator)
    (ordered : numerator ≤ rank.units * denominator) : nearest numerator denominator ≤ rank := by
  rw [← nearest_units rank positive]
  exact nearest_le_nearest positive positive (Nat.mul_le_mul_right _ ordered)

/-- What is at least a magnitude of the grid is rounded to at least this magnitude. -/
theorem le_nearest_of_le {rank : Rank} (positive : 0 < denominator)
    (ordered : rank.units * denominator ≤ numerator) : rank ≤ nearest numerator denominator := by
  rw [← nearest_units rank positive]
  exact nearest_le_nearest positive positive (Nat.mul_le_mul_right _ ordered)

end Rank

end Rover
