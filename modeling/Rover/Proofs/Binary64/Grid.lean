import Mathlib.Tactic.Linarith
import Mathlib.Tactic.Ring
import Rover.Binary64.Basic

/-!
# The grid of magnitudes

The magnitudes of all ranks form an ascending list, which goes on past the last finite one. A
place of it is a significand at a power of two, and no step of it is wider than the two of the
same binade or narrower than one part in two to the power 53 of what it leads to.
-/

namespace Rover

theorem twoTo_eq (exponent : Nat) : twoTo exponent = 2 ^ exponent := rfl

theorem twoTo_add (first second : Nat) : twoTo (first + second) = twoTo first * twoTo second :=
  Nat.pow_add 2 first second

namespace Rank

/-- The magnitude at a place of the list, in units. -/
def unitsAt (place : Nat) : Nat :=
  if place / binadeSize = 0 then place % binadeSize
  else (place % binadeSize + binadeSize) * twoTo (place / binadeSize - 1)

theorem units_eq (rank : Rank) : rank.units = unitsAt rank.val := rfl

/-- A place as a significand at a power of two. Only at the power zero the significand can be
less than the size of a binade. -/
structure Scaled (place shift significand : Nat) : Prop where
  place_eq : place = shift * binadeSize + significand
  least : shift = 0 ∨ binadeSize ≤ significand
  greatest : significand ≤ 2 * binadeSize

theorem binadeSize_pos : 0 < binadeSize := by decide

theorem exists_scaled (place : Nat) :
    ∃ shift significand, Scaled place shift significand ∧ significand < 2 * binadeSize := by
  have split := Nat.div_add_mod place binadeSize
  have short := Nat.mod_lt place binadeSize_pos
  cases binade : place / binadeSize with
  | zero =>
      rw [binade] at split
      refine ⟨0, place % binadeSize, ⟨?_, .inl rfl, ?_⟩, ?_⟩
      · omega
      · omega
      · omega
  | succ shift =>
      rw [binade, Nat.mul_succ, Nat.mul_comm] at split
      refine ⟨shift, place % binadeSize + binadeSize, ⟨?_, .inr ?_, ?_⟩, ?_⟩
      · omega
      · omega
      · omega
      · omega

/-- The end of a binade is the start of the next one, so both forms of such a place give the
same magnitude. -/
theorem Scaled.unitsAt_eq {place shift significand : Nat}
    (scaled : Scaled place shift significand) : unitsAt place = significand * twoTo shift := by
  obtain ⟨rfl, least, greatest⟩ := scaled
  rcases Nat.lt_or_ge significand binadeSize with subnormal | normal
  · have bottom : shift = 0 := least.resolve_right (by omega)
    subst bottom
    simp [unitsAt, Nat.div_eq_of_lt subnormal, Nat.mod_eq_of_lt subnormal]
  · rcases Nat.lt_or_eq_of_le greatest with inside | last
    · have binade : (shift * binadeSize + significand) / binadeSize = shift + 1 := by
        apply Nat.div_eq_of_lt_le
        · rw [Nat.add_mul]; omega
        · simp only [Nat.add_mul]; omega
      have fraction : (shift * binadeSize + significand) % binadeSize =
          significand - binadeSize := by
        rw [Nat.mod_eq_sub_mul_div, binade, Nat.mul_succ, Nat.mul_comm binadeSize shift]
        omega
      rw [unitsAt, binade, fraction, if_neg (Nat.succ_ne_zero shift),
        Nat.sub_add_cancel normal, Nat.add_sub_cancel]
    · subst last
      have binade : (shift * binadeSize + 2 * binadeSize) / binadeSize = shift + 2 := by
        rw [← Nat.add_mul]
        exact Nat.mul_div_cancel _ binadeSize_pos
      have fraction : (shift * binadeSize + 2 * binadeSize) % binadeSize = 0 := by
        rw [← Nat.add_mul]
        exact Nat.mul_mod_left _ _
      rw [unitsAt, binade, fraction, if_neg (Nat.succ_ne_zero _), Nat.zero_add,
        Nat.add_succ_sub_one, twoTo_succ]
      ring

theorem Scaled.succ {place shift significand : Nat} (scaled : Scaled place shift significand)
    (inside : significand < 2 * binadeSize) : Scaled (place + 1) shift (significand + 1) where
  place_eq := by rw [scaled.place_eq, Nat.add_assoc]
  least := scaled.least.imp_right Nat.le_succ_of_le
  greatest := inside

/-- A step is a power of two. -/
theorem Scaled.unitsAt_succ {place shift significand : Nat}
    (scaled : Scaled place shift significand) (inside : significand < 2 * binadeSize) :
    unitsAt (place + 1) = unitsAt place + twoTo shift := by
  rw [(scaled.succ inside).unitsAt_eq, scaled.unitsAt_eq, Nat.succ_mul]

/-- At the end of a binade the step is twice as wide. -/
theorem Scaled.add_le_unitsAt_succ {place shift significand : Nat}
    (scaled : Scaled place shift significand) :
    unitsAt place + twoTo shift ≤ unitsAt (place + 1) := by
  rcases Nat.lt_or_eq_of_le scaled.greatest with inside | last
  · exact Nat.le_of_eq (scaled.unitsAt_succ inside).symm
  · have next : Scaled place (shift + 1) binadeSize := by
      refine ⟨?_, .inr (Nat.le_refl _), ?_⟩
      · have split := Nat.add_mul shift 1 binadeSize
        rw [scaled.place_eq, last]
        omega
      · omega
    have wider := twoTo_succ shift
    rw [next.unitsAt_succ (by have := binadeSize_pos; omega)]
    omega

/-- The step before a place is as wide as its power of two says, unless a binade starts there. -/
theorem Scaled.pred {place shift significand : Nat}
    (scaled : Scaled (place + 1) shift significand) :
    unitsAt place + twoTo shift = unitsAt (place + 1) ∨
      (significand = binadeSize ∧ 0 < shift) := by
  have size := binadeSize_pos
  rcases Nat.eq_zero_or_pos shift with bottom | above
  · left
    have place_eq := scaled.place_eq
    have greatest := scaled.greatest
    subst bottom
    have before : Scaled place 0 (significand - 1) := ⟨by omega, .inl rfl, by omega⟩
    rw [before.unitsAt_succ (by omega)]
  · have least := scaled.least.resolve_left (Nat.ne_of_gt above)
    rcases Nat.eq_or_lt_of_le least with start | inside
    · exact .inr ⟨start.symm, above⟩
    · left
      have place_eq := scaled.place_eq
      have greatest := scaled.greatest
      have before : Scaled place shift (significand - 1) :=
        ⟨by omega, .inr (by omega), by omega⟩
      rw [before.unitsAt_succ (by omega)]

theorem unitsAt_lt_succ (place : Nat) : unitsAt place < unitsAt (place + 1) := by
  rcases exists_scaled place with ⟨shift, significand, scaled, inside⟩
  rw [scaled.unitsAt_succ inside]
  exact Nat.lt_add_of_pos_right (twoTo_pos shift)

theorem unitsAt_strictMono : StrictMono unitsAt := strictMono_nat_of_lt_succ unitsAt_lt_succ

@[simp] theorem unitsAt_zero : unitsAt 0 = 0 := rfl

/-- A step is at least one part in two to the power 53 of the magnitude that it leads to. -/
theorem unitsAt_succ_le (place : Nat) :
    unitsAt (place + 1) ≤ 2 * binadeSize * (unitsAt (place + 1) - unitsAt place) := by
  rcases exists_scaled place with ⟨shift, significand, scaled, inside⟩
  rw [scaled.unitsAt_succ inside, Nat.add_sub_cancel_left, scaled.unitsAt_eq, ← Nat.succ_mul]
  exact Nat.mul_le_mul_right _ inside

theorem units_le_units {left right : Rank} : left.units ≤ right.units ↔ left ≤ right :=
  unitsAt_strictMono.le_iff_le

theorem units_lt_units {left right : Rank} : left.units < right.units ↔ left < right :=
  unitsAt_strictMono.lt_iff_lt

theorem lt_infinity {rank : Rank} (finite : rank ≠ .infinity) : rank < .infinity :=
  Nat.lt_of_le_of_ne (Nat.le_of_lt_succ rank.isLt) fun same => finite (Fin.ext same)

end Rank

end Rover
