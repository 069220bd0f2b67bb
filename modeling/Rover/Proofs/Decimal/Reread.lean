import Rover.Decimal.Reader
import Rover.Proofs.Json.Numeral

/-!
# Messages read back

A number as it stands in a message, where it has no exponent, is read as the same number. Only the
infinities and what is no number are words of their own.
-/

namespace Rover

namespace Decimal

variable {significand : Nat} {exponent : Int}

/-- What is far below the least magnitude is rounded to zero. -/
theorem nearest_of_small (small : exponent + (significand.log2 + 1 : Nat) < -330) :
    Rank.nearest (significand * (unitsPerOne * tenTo exponent.toNat))
      (tenTo (-exponent).toNat) = .zero := by
  have above : exponent.toNat = 0 := by omega
  have bits : significand < tenTo (significand.log2 + 1) :=
    Nat.lt_of_lt_of_le Nat.lt_log2_self (Nat.pow_le_pow_left (by decide) _)
  have tiny : 2 * unitsPerOne ≤ tenTo 330 := by decide +kernel
  rw [above, tenTo_zero, Nat.mul_one]
  apply Rank.nearest_eq_of_isNearest (tenTo_pos _)
  apply Rank.IsNearest.of_between
  · calc 2 * (significand * unitsPerOne) = significand * (2 * unitsPerOne) := by ring
      _ ≤ significand * tenTo 330 := Nat.mul_le_mul_left _ tiny
      _ < tenTo (significand.log2 + 1) * tenTo 330 :=
          Nat.mul_lt_mul_of_pos_right bits (tenTo_pos 330)
      _ = tenTo (significand.log2 + 1 + 330) := (tenTo_add _ _).symm
      _ ≤ tenTo (-exponent).toNat := tenTo_le_tenTo (by omega)
      _ = (Rank.unitsAt 0 + Rank.unitsAt (0 + 1)) * tenTo (-exponent).toNat := by
          rw [show Rank.unitsAt 0 + Rank.unitsAt (0 + 1) = 1 from rfl, Nat.one_mul]
  · rintro lower ⟨⟩

/-- What is far beyond the greatest magnitude is rounded to infinity. -/
theorem nearest_of_large (nonzero : significand ≠ 0) (large : 310 < exponent) :
    Rank.nearest (significand * (unitsPerOne * tenTo exponent.toNat))
      (tenTo (-exponent).toNat) = .infinity := by
  have below : (-exponent).toNat = 0 := by omega
  have huge : Rank.infinity.units ≤ unitsPerOne * tenTo 311 := by decide +kernel
  have most : ∀ rank : Rank, rank ≤ .infinity := fun rank => Nat.le_of_lt_succ rank.isLt
  rw [below]
  refine Fin.le_antisymm (most _) (Rank.le_nearest_of_le (tenTo_pos 0) ?_)
  calc Rank.infinity.units * tenTo 0 = Rank.infinity.units := by rw [tenTo_zero, Nat.mul_one]
    _ ≤ unitsPerOne * tenTo 311 := huge
    _ ≤ unitsPerOne * tenTo exponent.toNat :=
        Nat.mul_le_mul_left _ (tenTo_le_tenTo (by omega))
    _ ≤ significand * (unitsPerOne * tenTo exponent.toNat) :=
        Nat.le_mul_of_pos_left _ (Nat.pos_of_ne_zero nonzero)

/-- What is rounded to a finite magnitude above zero is read as it. -/
theorem toBinary64_of_nearest {rank : Rank} (nonzero : rank ≠ .zero) (finite : rank ≠ .infinity)
    (near : Rank.nearest (significand * (unitsPerOne * tenTo exponent.toNat))
      (tenTo (-exponent).toNat) = rank) (negative : Bool) :
    toBinary64 ⟨negative, significand, exponent⟩ = .number negative rank := by
  have nonzero' : significand ≠ 0 := by
    rintro rfl
    rw [Nat.zero_mul, Rank.nearest_zero (tenTo_pos _)] at near
    exact nonzero near.symm
  rw [toBinary64_eq nonzero', near]
  · by_contra small
    exact nonzero (near.symm.trans (nearest_of_small (Int.not_le.mp small)))
  · by_contra large
    exact finite (near.symm.trans (nearest_of_large nonzero' (Int.not_le.mp large)))

end Decimal

/-! ## The digits of a message -/

namespace Decimal

open Json.Numeral (fractionText)

/-- A numeral is read by its digits and the place of its point. -/
theorem read_digits {whole fraction : List Char} (wholeDigits : AllDigits whole)
    (fractionDigits : AllDigits fraction) (filled : whole ≠ []) (negative : Bool) :
    read negative (whole ++ fractionText fraction) =
      some ⟨negative, ofDigits (whole ++ fraction), -fraction.length⟩ := by
  have stops : StopsDigits (fractionText fraction) := by
    rw [fractionText]
    split
    · rintro char ⟨⟩
    · rintro char ⟨⟩
      rfl
  have rest : readFraction (fractionText fraction) = (fraction, []) := by
    rw [fractionText]
    split
    next empty =>
      rw [empty]
      rfl
    next =>
      have whole := spanDigits_append fractionDigits (show StopsDigits [] from by rintro _ ⟨⟩)
      rwa [List.append_nil] at whole
  simp only [read, spanDigits_append wholeDigits stops, rest, filled, false_and, if_false,
    readExponent, Option.map_some]
  rw [Int.zero_sub]

/-- A message shows the digits of a decimal around a point, as many after it as there are places
below one. -/
theorem exists_placed {decimal : Decimal} (nonzero : decimal.significand ≠ 0) :
    ∃ whole fraction : List Char, AllDigits whole ∧ AllDigits fraction ∧ whole ≠ [] ∧
      placeDigits "" decimal.row decimal.firstPlace = whole ++ fractionText fraction ∧
      ofDigits (whole ++ fraction) = ofDigits decimal.row * tenTo decimal.lastPlace.toNat ∧
      fraction.length = (-decimal.lastPlace).toNat := by
  have row := decimal.allDigits_row
  have filled := row_ne_nil nonzero
  have positive := List.length_pos_iff.mpr filled
  have places : decimal.firstPlace = decimal.lastPlace + decimal.row.length - 1 := rfl
  rw [placeDigits]
  by_cases small : decimal.firstPlace < 0
  · have power : decimal.lastPlace.toNat = 0 := by omega
    refine ⟨['0'], zeros (-decimal.firstPlace - 1).toNat ++ decimal.row, .zeros 1,
      .append (.zeros _) row, List.cons_ne_nil _ _, ?_, ?_, ?_⟩
    · rw [if_pos small, fractionText, if_neg (by simp [filled])]
      rfl
    · rw [power, tenTo_zero, Nat.mul_one]
      exact (ofDigits_zeros_append 1 _).trans (ofDigits_zeros_append _ _)
    · rw [List.length_append, length_zeros]
      omega
  rw [if_neg small]
  by_cases whole : decimal.row.length ≤ decimal.firstPlace.toNat + 1
  · have count : decimal.firstPlace.toNat + 1 - decimal.row.length =
        decimal.lastPlace.toNat := by omega
    refine ⟨decimal.row ++ zeros decimal.lastPlace.toNat, [], row.append (.zeros _),
      by rintro _ ⟨⟩, by simp [filled], ?_, ?_, ?_⟩
    · simp [whole, count, fractionText]
    · rw [List.append_nil, ofDigits_append_zeros]
    · change 0 = _
      omega
  · have power : decimal.lastPlace.toNat = 0 := by omega
    refine ⟨decimal.row.take (decimal.firstPlace.toNat + 1),
      decimal.row.drop (decimal.firstPlace.toNat + 1), row.take _, row.drop _,
      by simp [filled], ?_, ?_, ?_⟩
    · have long : decimal.row.drop (decimal.firstPlace.toNat + 1) ≠ [] := by
        simpa using Nat.lt_of_not_le whole
      simp [whole, fractionText, long]
    · rw [List.take_append_drop, power, tenTo_zero, Nat.mul_one]
    · rw [List.length_drop]
      omega

end Decimal

/-! ## Whole messages -/

theorem toNat_of_isDigit {char : Char} (digit : char.isDigit = true) :
    48 ≤ char.toNat ∧ char.toNat ≤ 57 := by
  simp only [Char.isDigit, Bool.and_eq_true, decide_eq_true_eq] at digit
  exact digit

theorem toLower_of_isDigit {char : Char} (digit : char.isDigit = true) : char.toLower = char := by
  have bounds := toNat_of_isDigit digit
  refine dif_neg ?_
  rintro ⟨upper, -⟩
  have letter : 65 ≤ char.toNat := upper
  omega

/-- What starts with a digit has no sign. -/
theorem readSign_signMark {first : Char} (digit : first.isDigit = true) (rest : List Char)
    (negative : Bool) :
    readSign (signMark negative ++ first :: rest) = (negative, first :: rest) := by
  cases negative with
  | true => rfl
  | false =>
      have bounds := toNat_of_isDigit digit
      rw [signMark, if_neg Bool.false_ne_true, List.nil_append]
      unfold readSign
      split
      next same =>
        rw [(List.cons.inj same).1] at bounds
        exact absurd bounds (by decide)
      next same =>
        rw [(List.cons.inj same).1] at bounds
        exact absurd bounds (by decide)
      next => rfl

namespace Binary64

open Json.Numeral (fractionText)

/-- What starts with a digit is none of the words. -/
theorem read_signMark {first : Char} (digit : first.isDigit = true) (rest : List Char)
    (negative : Bool) :
    read (signMark negative ++ first :: rest) =
      (Decimal.read negative (first :: rest)).map Decimal.toBinary64 := by
  have other : ∀ word : List Char, word.head?.all Char.isDigit = false →
      (first :: rest).map Char.toLower ≠ word := by
    rintro word lettered rfl
    rw [List.map_cons, toLower_of_isDigit digit, List.head?_cons, Option.all_some,
      digit] at lettered
    cases lettered
  have infinite := not_or_intro (other "inf".toList rfl) (other "infinity".toList rfl)
  simp only [read, readSign_signMark digit]
  rw [if_neg infinite, if_neg (other "nan".toList rfl)]

/-- A finite magnitude is written as digits around a point, which stand for it. -/
theorem exists_written {rank : Rank} (finite : rank ≠ .infinity) (negative : Bool) :
    ∃ whole fraction : List Char, AllDigits whole ∧ AllDigits fraction ∧ whole ≠ [] ∧
      Layout.message.magnitude rank = whole ++ fractionText fraction ∧
      Decimal.toBinary64 ⟨negative, ofDigits (whole ++ fraction), -fraction.length⟩ =
        .number negative rank := by
  rcases eq_or_ne rank .zero with rfl | nonzero
  · refine ⟨['0'], [], .zeros 1, .zeros 0, List.cons_ne_nil _ _, ?_, rfl⟩
    rw [Layout.magnitude, if_pos rfl]
    rfl
  · obtain ⟨decimal, shortest⟩ : ∃ decimal, rank.shortest Layout.message.tie = decimal := ⟨_, rfl⟩
    have shows := Rank.shows_of_shortest nonzero finite shortest
    have near := shows.near
    obtain ⟨whole, fraction, wholeDigits, fractionDigits, filled, placed, value, places⟩ :=
      Decimal.exists_placed shows.nonzero
    refine ⟨whole, fraction, wholeDigits, fractionDigits, filled, ?_, ?_⟩
    · rw [Layout.magnitude_of_shortest nonzero shortest, ← placed]
      rfl
    · rw [← places] at near
      apply Decimal.toBinary64_of_nearest nonzero finite
      rw [value, Int.neg_neg, Int.toNat_natCast, Int.toNat_neg_natCast, tenTo_zero, Nat.mul_one,
        Nat.mul_right_comm, Nat.mul_assoc]
      exact near

/-- A finite number is read from a message that shows it. -/
theorem read_write_message {value : Binary64} (finite : value.isFinite = true) :
    read (value.write .message) = some value := by
  cases value with
  | nan => cases finite
  | number negative rank =>
      have below : rank ≠ .infinity := Fin.ne_of_lt (of_decide_eq_true finite)
      obtain ⟨whole, fraction, wholeDigits, fractionDigits, filled, written, stands⟩ :=
        exists_written below negative
      have read := Decimal.read_digits wholeDigits fractionDigits filled negative
      rw [write, if_neg below, written]
      cases whole with
      | nil => exact absurd rfl filled
      | cons first rest =>
          have digit := wholeDigits first List.mem_cons_self
          rw [List.cons_append, read_signMark digit, ← List.cons_append, read, Option.map_some,
            stands]

/-- A finite number is written with digits, a point and a sign. -/
theorem char_of_mem_write {value : Binary64} (finite : value.isFinite = true) {char : Char}
    (inside : char ∈ value.write .message) :
    char.isDigit = true ∨ char = '-' ∨ char = '.' := by
  cases value with
  | nan => cases finite
  | number negative rank =>
      have below : rank ≠ .infinity := Fin.ne_of_lt (of_decide_eq_true finite)
      obtain ⟨whole, fraction, wholeDigits, fractionDigits, -, written, -⟩ :=
        exists_written below negative
      rw [write, if_neg below, written, List.mem_append, List.mem_append] at inside
      rcases inside with sign | early | late
      · cases negative with
        | false => cases sign
        | true => exact .inr (.inl (List.mem_singleton.mp sign))
      · exact .inl (wholeDigits char early)
      · rw [fractionText] at late
        split at late
        next => cases late
        next =>
          rcases List.mem_cons.mp late with point | among
          · exact .inr (.inr point)
          · exact .inl (fractionDigits char among)

end Binary64

end Rover
