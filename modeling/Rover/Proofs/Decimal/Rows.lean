import Rover.Decimal.Printer
import Rover.Proofs.Decimal.Shortest

/-!
# Rows of digits

The printer takes the zeros off the end of the shortest digits and lays the rest out by the place of
the last one. A row and this place are all that a reader gets to see of a magnitude, and they are
the same decimal as before.
-/

namespace Rover

theorem ofDigits_append (first second : List Char) :
    ofDigits (first ++ second) = ofDigits first * tenTo second.length + ofDigits second := by
  rw [ofDigits, Nat.ofDigitChars_append, Nat.ofDigitChars_eq_ofDigitChars_zero, Nat.mul_comm]
  rfl

@[simp] theorem ofDigits_zeros (count : Nat) : ofDigits (zeros count) = 0 := by
  rw [ofDigits, zeros, Nat.ofDigitChars_replicate_zero, Nat.mul_zero]

@[simp] theorem length_zeros (count : Nat) : (zeros count).length = count := List.length_replicate

@[simp] theorem ofDigits_zeros_append (count : Nat) (row : List Char) :
    ofDigits (zeros count ++ row) = ofDigits row := by
  rw [ofDigits_append, ofDigits_zeros, Nat.zero_mul, Nat.zero_add]

@[simp] theorem ofDigits_append_zeros (row : List Char) (count : Nat) :
    ofDigits (row ++ zeros count) = ofDigits row * tenTo count := by
  rw [ofDigits_append, ofDigits_zeros, length_zeros, Nat.add_zero]

/-- A row that consists of decimal digits. -/
def AllDigits (row : List Char) : Prop := ∀ char ∈ row, char.isDigit = true

namespace AllDigits

variable {row first second : List Char}

theorem append (digits : AllDigits first) (digits' : AllDigits second) :
    AllDigits (first ++ second) :=
  List.forall_mem_append.mpr ⟨digits, digits'⟩

theorem zeros (count : Nat) : AllDigits (Rover.zeros count) := by
  intro char among
  rw [List.eq_of_mem_replicate among]
  rfl

theorem take (digits : AllDigits row) (count : Nat) : AllDigits (row.take count) :=
  fun char among => digits char (List.mem_of_mem_take among)

theorem drop (digits : AllDigits row) (count : Nat) : AllDigits (row.drop count) :=
  fun char among => digits char (List.mem_of_mem_drop among)

end AllDigits

theorem allDigits_digits (value : Nat) : AllDigits (digits value) :=
  fun _ among => isDigit_of_mem_digits among

theorem digits_pos_length (value : Nat) : 0 < (digits value).length := Nat.length_toDigits_pos

theorem tenTo_length_digits_le {value : Nat} (nonzero : value ≠ 0) :
    tenTo ((digits value).length - 1) ≤ value := by
  rcases Nat.lt_or_ge 1 (digits value).length with long | short
  · by_contra less
    have bound := (Nat.length_toDigits_le_iff (by decide) (Nat.sub_pos_of_lt long)).mpr
      (Nat.lt_of_not_le less)
    change (digits value).length ≤ _ at bound
    omega
  · rw [Nat.sub_eq_zero_of_le short]
    exact Nat.pos_of_ne_zero nonzero

/-- Only zero is written with a zero in front. -/
theorem head?_digits {value : Nat} (nonzero : value ≠ 0) : (digits value).head? ≠ some '0' := by
  induction value using digitCount.induct with
  | case1 value small =>
      rw [digits, Nat.toDigits_of_lt_base small]
      have single : ∀ value < 10, value ≠ 0 → [Nat.digitChar value].head? ≠ some '0' := by
        decide
      exact single value small nonzero
  | case2 value large ih =>
      have row : digits value = digits (value / 10) ++ [(value % 10).digitChar] := by
        rw [digits, Nat.toDigits_eq_if (by decide), if_neg large]
        rfl
      rw [row, List.head?_append_of_ne_nil _ (digits_ne_nil _)]
      exact ih (Nat.ne_of_gt (Nat.div_pos (Nat.le_of_not_lt large) (by decide)))

/-! ## Zeros at the end -/

theorem digits_eq_append_zeros (value : Nat) :
    ∃ count, digits value = significantDigits value ++ zeros count := by
  let back := (digits value).reverse
  have ending : back.takeWhile (· == '0') = zeros (back.takeWhile (· == '0')).length := by
    rw [zeros, List.eq_replicate_iff]
    refine ⟨rfl, fun char among => ?_⟩
    exact eq_of_beq (List.all_eq_true.mp List.all_takeWhile char among)
  have split := congrArg List.reverse
    (List.takeWhile_append_dropWhile (p := (· == '0')) (l := back))
  rw [List.reverse_append, ending, List.reverse_reverse] at split
  exact ⟨_, by rw [← split, zeros, List.reverse_replicate]; rfl⟩

theorem allDigits_significantDigits (value : Nat) : AllDigits (significantDigits value) := by
  obtain ⟨count, row⟩ := digits_eq_append_zeros value
  intro char among
  apply allDigits_digits value
  rw [row]
  exact List.mem_append_left _ among

theorem ofDigits_significantDigits {value count : Nat}
    (row : digits value = significantDigits value ++ zeros count) :
    ofDigits (significantDigits value) * tenTo count = value := by
  rw [← ofDigits_append_zeros, ← row, ofDigits_digits]

theorem significantDigits_ne_nil {value : Nat} (nonzero : value ≠ 0) :
    significantDigits value ≠ [] := by
  obtain ⟨count, row⟩ := digits_eq_append_zeros value
  intro empty
  have same := ofDigits_significantDigits row
  rw [empty, ofDigits, Nat.ofDigitChars_nil, Nat.zero_mul] at same
  exact nonzero same.symm

theorem head?_significantDigits {value : Nat} (nonzero : value ≠ 0) :
    (significantDigits value).head? ≠ some '0' := by
  obtain ⟨count, row⟩ := digits_eq_append_zeros value
  have first := head?_digits nonzero
  rwa [row, List.head?_append_of_ne_nil _ (significantDigits_ne_nil nonzero)] at first

/-! ## The digits that are shown -/

namespace Decimal

/-- The digits that are shown of a decimal: those without the zeros at their end. -/
def row (decimal : Decimal) : List Char := significantDigits decimal.significand

/-- The power of ten of the last digit that is shown. -/
def lastPlace (decimal : Decimal) : Int :=
  decimal.exponent + ((digits decimal.significand).length - decimal.row.length : Nat)

/-- The power of ten of the first digit that is shown. -/
def firstPlace (decimal : Decimal) : Int := decimal.lastPlace + decimal.row.length - 1

variable {decimal : Decimal}

theorem allDigits_row (decimal : Decimal) : AllDigits decimal.row := allDigits_significantDigits _

theorem exists_zeros (decimal : Decimal) :
    ∃ count : Nat, decimal.lastPlace = decimal.exponent + count ∧
      digits decimal.significand = decimal.row ++ zeros count := by
  obtain ⟨count, shown⟩ := digits_eq_append_zeros decimal.significand
  refine ⟨count, ?_, shown⟩
  rw [lastPlace, shown, row, List.length_append, length_zeros, Nat.add_sub_cancel_left]

theorem firstPlace_eq (decimal : Decimal) :
    decimal.exponent + (digits decimal.significand).length - 1 = decimal.firstPlace := by
  obtain ⟨count, place, shown⟩ := exists_zeros decimal
  rw [firstPlace, place, shown, List.length_append, length_zeros]
  omega

variable (nonzero : decimal.significand ≠ 0)

include nonzero

theorem row_ne_nil : decimal.row ≠ [] := significantDigits_ne_nil nonzero

theorem head?_row : decimal.row.head? ≠ some '0' := head?_significantDigits nonzero

/-- The first digit is no zero, so the row is a value of as many digits. -/
theorem tenTo_length_row_le : tenTo (decimal.row.length - 1) ≤ ofDigits decimal.row := by
  obtain ⟨count, -, shown⟩ := exists_zeros decimal
  have least := tenTo_length_digits_le nonzero
  have whole := ofDigits_significantDigits shown
  have filled := List.length_pos_iff.mpr (row_ne_nil nonzero)
  apply Nat.le_of_mul_le_mul_right _ (tenTo_pos count)
  rw [← tenTo_add]
  rw [shown, List.length_append, length_zeros, ← whole] at least
  exact Nat.le_trans (tenTo_le_tenTo (by omega)) least

omit nonzero

theorem ofDigits_row_lt (decimal : Decimal) : ofDigits decimal.row < tenTo decimal.row.length := by
  obtain ⟨count, -, shown⟩ := exists_zeros decimal
  have whole := ofDigits_significantDigits shown
  have bound := (Nat.length_toDigits_le_iff (by decide)
    (digits_pos_length decimal.significand)).mp (Nat.le_refl _)
  change decimal.significand < tenTo _ at bound
  rw [shown, List.length_append, length_zeros, tenTo_add, ← whole] at bound
  exact Nat.lt_of_mul_lt_mul_right bound

theorem ofDigits_row_le (decimal : Decimal) : ofDigits decimal.row ≤ decimal.significand := by
  obtain ⟨count, -, shown⟩ := exists_zeros decimal
  calc ofDigits decimal.row ≤ ofDigits decimal.row * tenTo count :=
        Nat.le_mul_of_pos_right _ (tenTo_pos count)
    _ = decimal.significand := ofDigits_significantDigits shown

/-- The digits that are shown are rounded as the decimal is. -/
theorem nearest_row (decimal : Decimal) :
    Rank.nearest (ofDigits decimal.row * (unitsPerOne * tenTo decimal.lastPlace.toNat))
        (tenTo (-decimal.lastPlace).toNat) =
      Rank.nearest (decimal.significand * (unitsPerOne * tenTo decimal.exponent.toNat))
        (tenTo (-decimal.exponent).toNat) := by
  obtain ⟨count, place, shown⟩ := exists_zeros decimal
  have whole : ofDigits decimal.row * tenTo count = decimal.significand :=
    ofDigits_significantDigits shown
  apply Rank.nearest_congr (tenTo_pos _) (tenTo_pos _)
  have balance : decimal.lastPlace.toNat + (-decimal.exponent).toNat =
      count + decimal.exponent.toNat + (-decimal.lastPlace).toNat := by omega
  have powers : tenTo decimal.lastPlace.toNat * tenTo (-decimal.exponent).toNat =
      tenTo count * tenTo decimal.exponent.toNat * tenTo (-decimal.lastPlace).toNat := by
    rw [← tenTo_add, balance, tenTo_add, tenTo_add]
  rw [← whole]
  generalize ofDigits decimal.row = value
  calc value * (unitsPerOne * tenTo decimal.lastPlace.toNat) * tenTo (-decimal.exponent).toNat
      = value * unitsPerOne *
          (tenTo decimal.lastPlace.toNat * tenTo (-decimal.exponent).toNat) := by ring
    _ = value * unitsPerOne *
          (tenTo count * tenTo decimal.exponent.toNat * tenTo (-decimal.lastPlace).toNat) := by
        rw [powers]
    _ = value * tenTo count * (unitsPerOne * tenTo decimal.exponent.toNat) *
          tenTo (-decimal.lastPlace).toNat := by ring

end Decimal

/-- The decimal shows a magnitude if its digits are rounded to it. A word of 64 bits holds them. -/
structure Decimal.Shows (decimal : Decimal) (rank : Rank) : Prop where
  nonzero : decimal.significand ≠ 0
  short : ofDigits decimal.row ≤ tenTo 17
  near : Rank.nearest (ofDigits decimal.row * (unitsPerOne * tenTo decimal.lastPlace.toNat))
    (tenTo (-decimal.lastPlace).toNat) = rank

theorem Layout.magnitude_of_shortest {layout : Layout} {rank : Rank} {decimal : Decimal}
    (nonzero : rank ≠ .zero) (shortest : rank.shortest layout.tie = decimal) :
    layout.magnitude rank =
      if layout.isPositional decimal.firstPlace then
        placeDigits layout.wholeSuffix decimal.row decimal.firstPlace
      else scientific decimal.row decimal.firstPlace := by
  rw [Layout.magnitude, if_neg nonzero]
  simp only [shortest, Decimal.firstPlace_eq, Decimal.row]

/-- The shortest decimal of a finite magnitude above zero shows it. -/
theorem Rank.shows_of_shortest {rank : Rank} {decimal : Decimal} {tie : Tie}
    (nonzero : rank ≠ .zero) (finite : rank ≠ .infinity)
    (shortest : rank.shortest tie = decimal) : decimal.Shows rank := by
  obtain ⟨back, -, short⟩ := shortest_readsBack nonzero finite tie
  rw [shortest] at back short
  obtain ⟨nonzero', -, -, near⟩ := Decimal.nearest_of_toBinary64 nonzero finite back
  refine ⟨nonzero', ?_, ?_⟩
  · exact Nat.le_trans decimal.ofDigits_row_le short
  · rw [decimal.nearest_row, near]

end Rover
