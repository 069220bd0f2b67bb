import Rover.Proofs.Json.Scaling
import Rover.Proofs.Parameters

/-!
# A wait read back

The data format writes a wait by its shortest digits, which nothing but the wait is nearest to. The
reader does not take the nearest number: it rounds the digits to a number of the format and divides
this by a power of ten, which rounds again. `Parameters.rereadWait` is what comes of it. It stays
within the bounds of a wait, and it is the wait again if digits and power are on the grid.
-/

namespace Rover

/-! ## The written number -/

namespace Json.Numeral

/-- A finite number of the binary format as the data format writes it. -/
def ofNumber (negative : Bool) (rank : Rank) : Numeral :=
  if rank = .zero then ⟨negative, ['0'], ['0'], none⟩
  else ofDecimal negative (rank.shortest Layout.data.tie)

theorem wf_ofNumber (negative : Bool) {rank : Rank} (finite : rank ≠ .infinity) :
    (ofNumber negative rank).WF := by
  rw [ofNumber]
  split
  next =>
    have zero : AllDigits ['0'] := .zeros 1
    exact ⟨zero, List.cons_ne_nil _ _, fun _ => rfl, zero, by rintro _ _ ⟨⟩⟩
  next nonzero => exact wf_ofDecimal negative (Rank.shows_of_shortest nonzero finite rfl).nonzero

theorem text_ofNumber (negative : Bool) {rank : Rank} (finite : rank ≠ .infinity) :
    (ofNumber negative rank).text = (Binary64.number negative rank).dataText.toList := by
  have printed : (Binary64.number negative rank).dataText.toList =
      signMark negative ++ Layout.data.magnitude rank := by
    have shown : (Binary64.number negative rank).isFinite = true :=
      decide_eq_true (Rank.lt_infinity finite)
    rw [Binary64.dataText, if_pos shown, String.toList_ofList, Binary64.write, if_neg finite]
  rw [printed, ofNumber]
  split
  next zero =>
    rw [Layout.magnitude, if_pos zero]
    rfl
  next nonzero =>
    obtain ⟨decimal, shortest⟩ : ∃ decimal, rank.shortest Layout.data.tie = decimal := ⟨_, rfl⟩
    rw [shortest, text_ofDecimal negative (Rank.shows_of_shortest nonzero finite shortest).nonzero,
      Layout.magnitude_of_shortest nonzero shortest]
    rfl

end Json.Numeral

namespace Parameters

open Json

/-- What is read where a wait was written. Whole waits are read as they are, and no wait but zero
has a minus sign. -/
def rereadWait : Binary64 → Binary64
  | .nan => .nan
  | .number negative rank =>
    let decimal := rank.shortest Layout.data.tie
    if rank = .zero ∨ 0 ≤ decimal.lastPlace then .number negative rank
    else shrink (.ofNat (ofDigits decimal.row)) (-decimal.lastPlace).toNat

theorem rereadWait_zero (negative : Bool) :
    rereadWait (.number negative .zero) = .number negative .zero := by
  rw [rereadWait]
  exact if_pos (.inl rfl)

variable {rank : Rank} {decimal : Decimal}

theorem rereadWait_whole (shortest : rank.shortest Layout.data.tie = decimal)
    (whole : 0 ≤ decimal.lastPlace) (negative : Bool) :
    rereadWait (.number negative rank) = .number negative rank := by
  simp only [rereadWait, shortest]
  exact if_pos (.inr whole)

theorem rereadWait_fraction (nonzero : rank ≠ .zero)
    (shortest : rank.shortest Layout.data.tie = decimal) (part : decimal.lastPlace < 0)
    (negative : Bool) :
    rereadWait (.number negative rank) =
      shrink (.ofNat (ofDigits decimal.row)) (-decimal.lastPlace).toNat := by
  simp only [rereadWait, shortest]
  exact if_neg (not_or_intro nonzero (Int.not_le.mpr part))

/-- Digits that show a number of at most 180 with places after the point are at most 180 of their
steps, for 180 itself is shown without such places. -/
theorem row_le_of_le (shows : decimal.Shows rank)
    (shortest : rank.shortest Layout.data.tie = decimal) (part : decimal.lastPlace < 0)
    (most : rank ≤ Rank.ofNat 180) :
    ofDigits decimal.row ≤ 180 * tenTo (-decimal.lastPlace).toNat := by
  by_contra more
  have above : Rank.ofNat 180 ≤ rank := by
    rw [← shows.near]
    apply Rank.le_nearest_of_le (tenTo_pos _)
    rw [Rank.units_ofNat (by decide)]
    have power : decimal.lastPlace.toNat = 0 := by omega
    rw [power, tenTo_zero, Nat.mul_one]
    calc 180 * unitsPerOne * tenTo (-decimal.lastPlace).toNat
        = 180 * tenTo (-decimal.lastPlace).toNat * unitsPerOne := by ring
      _ ≤ ofDigits decimal.row * unitsPerOne :=
          Nat.mul_le_mul_right _ (Nat.le_of_lt (Nat.lt_of_not_le more))
  have greatest : 0 ≤ ((Rank.ofNat 180).shortest Layout.data.tie).lastPlace := by decide +kernel
  rw [← Fin.le_antisymm most above, shortest] at greatest
  exact absurd part (Int.not_lt.mpr greatest)

/-- Digits without places after the point show a whole number, which a number of at most 180 is. -/
theorem whole_of_le (shows : decimal.Shows rank) (whole : 0 ≤ decimal.lastPlace)
    (most : rank ≤ Rank.ofNat 180) :
    Rank.ofNat (ofDigits decimal.row * tenTo decimal.lastPlace.toNat) = rank ∧
      ofDigits decimal.row * tenTo decimal.lastPlace.toNat ≤ 180 ∧ decimal.firstPlace ≤ 15 := by
  have same : Rank.ofNat (ofDigits decimal.row * tenTo decimal.lastPlace.toNat) = rank := by
    rw [← shows.near, Rank.ofNat]
    apply Rank.nearest_congr Nat.one_pos (tenTo_pos _)
    have power : (-decimal.lastPlace).toNat = 0 := by omega
    rw [power, tenTo_zero]
    ring
  have bounded : ofDigits decimal.row * tenTo decimal.lastPlace.toNat ≤ 180 := by
    by_contra more
    have passed := Rank.ofNat_le_ofNat (Nat.lt_of_not_le more)
    rw [same] at passed
    have units := Rank.units_le_units.mpr (Fin.le_trans passed most)
    rw [Rank.units_ofNat (by decide), Rank.units_ofNat (by decide)] at units
    exact absurd (Nat.le_of_mul_le_mul_right units unitsPerOne_pos) (by decide)
  refine ⟨same, bounded, ?_⟩
  have filled := List.length_pos_iff.mpr (Decimal.row_ne_nil shows.nonzero)
  have least := Nat.mul_le_mul_right (tenTo decimal.lastPlace.toNat)
    (Decimal.tenTo_length_row_le shows.nonzero)
  rw [← tenTo_add] at least
  have places : decimal.row.length - 1 + decimal.lastPlace.toNat < 3 :=
    lt_of_tenTo_lt_tenTo (Nat.lt_of_le_of_lt (Nat.le_trans least bounded) (by decide))
  have first : decimal.firstPlace = decimal.lastPlace + decimal.row.length - 1 := rfl
  omega

theorem scale_fraction {exponent : Int} (part : exponent < 0) (significand : Nat) :
    scale false significand exponent =
      some (shrink (.ofNat significand) (-exponent).toNat) := by
  rw [scale, if_neg (Int.not_le.mpr part)]
  rfl

/-- Zero keeps its sign. -/
theorem toBinary64?_zero (negative : Bool) :
    (Numeral.ofNumber negative .zero).toBinary64? = some (.number negative .zero) := by
  have shrunk : shrink (.ofNat 0) 1 = .number false .zero := by
    rw [shrink_exact (Nat.zero_le _) (by decide : 1 ≤ 22), Nat.zero_mul,
      Rank.nearest_zero (tenTo_pos 1)]
  have digits : Numeral.ofNumber negative .zero = ⟨negative, ['0'], ['0'], none⟩ :=
    if_pos rfl
  have meaning : (⟨negative, ['0'], ['0'], none⟩ : Numeral).toBinary64? =
      scale negative 0 (-1) :=
    Numeral.toBinary64?_eq (show ofDigits ['0', '0'] ≤ wordMax by decide)
  have power : (-(-1 : Int)).toNat = 1 := rfl
  rw [digits, meaning, scale, if_neg (by decide), power, shrunk]
  cases negative <;> rfl

/-- A wait is read from its text as `rereadWait` says. -/
theorem toBinary64?_wait {negative : Bool} (within : waitInBounds (.number negative rank) = true) :
    (Numeral.ofNumber negative rank).toBinary64? = some (rereadWait (.number negative rank)) := by
  rcases wait_number_cases within with ⟨negative', zero⟩ | ⟨rank', same, nonzero, finite, most⟩
  · obtain rfl := (Binary64.number.inj zero).2
    rw [rereadWait_zero, toBinary64?_zero]
  · obtain ⟨rfl, rfl⟩ := Binary64.number.inj same
    obtain ⟨decimal, shortest⟩ : ∃ decimal, rank.shortest Layout.data.tie = decimal := ⟨_, rfl⟩
    have shows := Rank.shows_of_shortest nonzero finite shortest
    rw [Numeral.ofNumber, if_neg nonzero, shortest,
      Numeral.toBinary64?_ofDecimal false shows.nonzero shows.short]
    by_cases whole : 0 ≤ decimal.lastPlace
    · obtain ⟨value, bounded, first⟩ := whole_of_le shows whole most
      have tenfold : ofDigits decimal.row * tenTo (decimal.lastPlace.toNat + 1) =
          ofDigits decimal.row * tenTo decimal.lastPlace.toNat * 10 := by
        rw [tenTo_succ, Nat.mul_assoc]
      rw [if_pos ⟨whole, first⟩, rereadWait_whole shortest whole, tenfold,
        scale_fraction (by decide), ← value]
      generalize ofDigits decimal.row * tenTo decimal.lastPlace.toNat = count at bounded
      have fits : count * 10 ≤ 2 * binadeSize :=
        Nat.le_trans (Nat.mul_le_mul_right 10 bounded) (by decide)
      apply congrArg some
      refine (shrink_exact fits (by decide : 1 ≤ 22)).trans ?_
      apply congrArg
      apply Rank.nearest_congr (tenTo_pos 1) Nat.one_pos
      rw [tenTo_succ, tenTo_zero]
      ring
    · have part := Int.not_le.mp whole
      rw [if_neg (fun both => whole both.1), scale_fraction part,
        rereadWait_fraction nonzero shortest part]

/-- No digits that are at most 180 of their steps are read as more than 180. -/
theorem shrink_row_le {row exponent : Nat} (short : row ≤ tenTo 17)
    (most : row ≤ 180 * tenTo exponent) :
    ∃ rank', shrink (.ofNat row) exponent = .number false rank' ∧ rank' ≤ Rank.ofNat 180 := by
  have below : Rank.ofNat row ≤ Rank.ofNat (tenTo 17) := Rank.ofNat_le_ofNat short
  have finite : Rank.ofNat row ≠ .infinity :=
    Fin.ne_of_lt (Fin.lt_of_le_of_lt below (Rank.ofNat_tenTo_lt_infinity (by decide)))
  by_cases small : exponent ≤ 17
  · have divided := shrink_small finite (Nat.le_trans small (show 17 ≤ greatestPower by decide))
    refine ⟨_, divided, ?_⟩
    have power : 5 ^ exponent ≤ 5 ^ 17 := Nat.pow_le_pow_right (by decide) small
    have fits : 180 * 5 ^ exponent ≤ 2 * binadeSize :=
      Nat.le_trans (Nat.mul_le_mul_left 180 power) (by decide)
    have units := Rank.units_le_units.mpr (Rank.ofNat_le_ofNat most)
    rw [Rank.units_ofNat_mul_tenTo fits (by omega)] at units
    rw [Rank.units_ofNat_tenTo (by omega)]
    apply Rank.nearest_le_of_le (Nat.mul_pos (tenTo_pos exponent) unitsPerOne_pos)
    have bound : (Rank.ofNat 180).units = 180 * unitsPerOne := Rank.units_ofNat (by decide)
    rw [bound]
    calc (Rank.ofNat row).units * unitsPerOne
        ≤ 180 * tenTo exponent * unitsPerOne * unitsPerOne := Nat.mul_le_mul_right _ units
      _ = 180 * unitsPerOne * (tenTo exponent * unitsPerOne) := by ring
  · obtain ⟨rank', result, less⟩ :=
      shrink_le_one finite below (by decide) (Nat.le_of_not_le small)
    exact ⟨rank', result, Fin.le_trans less (Rank.ofNat_le_ofNat (by decide))⟩

/-- A wait that is read back is within its bounds. -/
theorem waitInBounds_rereadWait {wait : Binary64} (within : waitInBounds wait = true) :
    waitInBounds (rereadWait wait) = true := by
  rcases wait_number_cases within with ⟨negative, rfl⟩ | ⟨rank, rfl, nonzero, finite, most⟩
  · rwa [rereadWait_zero]
  · obtain ⟨decimal, shortest⟩ : ∃ decimal, rank.shortest Layout.data.tie = decimal := ⟨_, rfl⟩
    have shows := Rank.shows_of_shortest nonzero finite shortest
    by_cases whole : 0 ≤ decimal.lastPlace
    · rwa [rereadWait_whole shortest whole]
    · have part := Int.not_le.mp whole
      obtain ⟨rank', result, bounded⟩ :=
        shrink_row_le shows.short (row_le_of_le shows shortest part most)
      rw [rereadWait_fraction nonzero shortest part, result]
      exact waitInBounds_of_le bounded

/-- The digits that are shown of the number are on the grid, and so is the power of ten by which
the reader divides them. All numbers of up to 15 digits and 22 places after the point are such. -/
def HasExactDigits : Binary64 → Prop
  | .nan => False
  | .number _ rank =>
    let decimal := rank.shortest Layout.data.tie
    rank = .zero ∨ (ofDigits decimal.row ≤ 2 * binadeSize ∧ -22 ≤ decimal.lastPlace)

theorem rereadWait_eq_self {wait : Binary64} (within : waitInBounds wait = true)
    (exact : HasExactDigits wait) : rereadWait wait = wait := by
  rcases wait_number_cases within with ⟨negative, rfl⟩ | ⟨rank, rfl, nonzero, finite, most⟩
  · exact rereadWait_zero negative
  · obtain ⟨fits, places⟩ := exact.resolve_left nonzero
    obtain ⟨decimal, shortest⟩ : ∃ decimal, rank.shortest Layout.data.tie = decimal := ⟨_, rfl⟩
    have shows := Rank.shows_of_shortest nonzero finite shortest
    rw [shortest] at fits places
    by_cases whole : 0 ≤ decimal.lastPlace
    · exact rereadWait_whole shortest whole false
    · have part := Int.not_le.mp whole
      have near := shows.near
      have power : decimal.lastPlace.toNat = 0 := by omega
      rw [power, tenTo_zero, Nat.mul_one] at near
      rw [rereadWait_fraction nonzero shortest part, shrink_exact fits (by omega), near]

end Parameters

end Rover
