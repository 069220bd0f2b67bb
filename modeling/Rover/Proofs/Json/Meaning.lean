import Rover.Json.Decode
import Rover.Proofs.Json.Numeral

/-!
# What the written numbers mean

A whole number is written as it is. A number of the binary format is written by the digits of a
decimal that shows it, which fit one word of the reader: the reader loses none of them, and all that
it adds is its scaling by a power of ten.
-/

namespace Rover.Json

/-- A row that fits the word is taken whole. -/
theorem gather_eq {word : Nat} {row : List Char} (fits : Nat.ofDigitChars 10 row word ≤ wordMax) :
    gather word row = (Nat.ofDigitChars 10 row word, []) := by
  induction row generalizing word with
  | nil => rfl
  | cons digit rest ih =>
      rw [Nat.ofDigitChars_cons] at fits ⊢
      have next : 10 * word + digitValue digit ≤ wordMax := by
        rw [Nat.ofDigitChars_eq_ofDigitChars_zero] at fits
        exact Nat.le_trans (Nat.le_mul_of_pos_left _ (tenTo_pos rest.length))
          (Nat.le_trans (Nat.le_add_right _ _) fits)
      rw [gather, if_pos next]
      exact ih fits

namespace Numeral

/-- A number whose digits fit the word is its digits at a power of ten. -/
theorem toBinary64?_eq {numeral : Numeral}
    (fits : ofDigits (numeral.whole ++ numeral.fraction) ≤ wordMax) :
    numeral.toBinary64? = scale numeral.negative (ofDigits (numeral.whole ++ numeral.fraction))
      (numeral.power - numeral.fraction.length) := by
  have all : ofDigits (numeral.whole ++ numeral.fraction) =
      Nat.ofDigitChars 10 numeral.fraction (ofDigits numeral.whole) := Nat.ofDigitChars_append 0
  have head : ofDigits numeral.whole ≤ wordMax := by
    rw [ofDigits_append] at fits
    exact Nat.le_trans (Nat.le_mul_of_pos_right _ (tenTo_pos _))
      (Nat.le_trans (Nat.le_add_right _ _) fits)
  rw [all] at fits ⊢
  have whole : gather 0 numeral.whole = (ofDigits numeral.whole, []) := gather_eq head
  simp only [toBinary64?, whole, gather_eq fits, List.length_nil]
  exact congrArg _ (by omega)

/-! ## Whole numbers -/

/-- A whole number as it is written. -/
def ofInt (value : Int) : Numeral := ⟨decide (value < 0), digits value.natAbs, [], none⟩

theorem wf_ofInt (value : Int) : (ofInt value).WF where
  whole := allDigits_digits _
  some_whole := digits_ne_nil _
  leading zero := by
    rcases eq_or_ne value.natAbs 0 with isZero | nonzero
    · change digits value.natAbs = _
      rw [isZero]
      rfl
    · exact absurd zero (head?_digits nonzero)
  fraction := by
    intro char among
    cases among
  exponent negative row same := by cases same

theorem text_ofInt (value : Int) : (ofInt value).text = (toString value).toList := by
  rw [Int.toString_eq_repr, Int.repr_eq_if]
  have body : (ofInt value).text = signMark (decide (value < 0)) ++ digits value.natAbs :=
    congrArg _ (List.append_nil _)
  rw [body]
  split
  next least =>
    have whole : value.natAbs = value.toNat := by omega
    rw [decide_eq_false (Int.not_lt.mpr least), whole, Nat.repr_eq_ofList_toDigits,
      String.toList_ofList]
    rfl
  next less =>
    have whole : value.natAbs = (-value).toNat := by omega
    rw [decide_eq_true (Int.not_le.mp less), whole, Nat.repr_eq_ofList_toDigits,
      String.toList_append, String.toList_ofList, String.toList_ofList]
    rfl

/-- The number is the given whole number, written without fraction and exponent. Zero has no
sign. -/
structure IsInt (numeral : Numeral) (value : Int) : Prop where
  fraction : numeral.fraction = []
  exponent : numeral.exponent = none
  value_eq : value =
    if numeral.negative then -(ofDigits numeral.whole : Int) else ofDigits numeral.whole
  zero : value = 0 → numeral.negative = false

theorem toInt?_eq_some_iff {numeral : Numeral} {value : Int} :
    numeral.toInt? = some value ↔ numeral.IsInt value := by
  rw [toInt?]
  by_cases plain : numeral.fraction ≠ [] ∨ numeral.exponent ≠ none
  · rw [if_pos plain]
    refine iff_of_false (by rintro ⟨⟩) ?_
    rintro ⟨fraction, exponent, -, -⟩
    exact plain.elim (absurd fraction) (absurd exponent)
  · rw [if_neg plain]
    rw [not_or, not_not, not_not] at plain
    obtain ⟨fraction, exponent⟩ := plain
    have shape : numeral.IsInt value ↔ (value =
        if numeral.negative then -(ofDigits numeral.whole : Int) else ofDigits numeral.whole) ∧
          (value = 0 → numeral.negative = false) :=
      ⟨fun isInt => ⟨isInt.value_eq, isInt.zero⟩, fun both => ⟨fraction, exponent, both.1, both.2⟩⟩
    rw [shape]
    cases sign : numeral.negative with
    | false => simp [eq_comm]
    | true =>
        by_cases zero : ofDigits numeral.whole = 0
        · simp [zero]
        · simp only [if_true, if_neg zero, Option.some.injEq]
          omega

theorem isInt_ofInt (value : Int) : (ofInt value).IsInt value where
  fraction := rfl
  exponent := rfl
  value_eq := by
    have magnitude : ofDigits (ofInt value).whole = value.natAbs := ofDigits_digits _
    rw [magnitude]
    by_cases less : value < 0
    · have negative : (ofInt value).negative = true := decide_eq_true less
      rw [if_pos negative]
      omega
    · have positive : ¬ (ofInt value).negative = true := by simpa [ofInt] using less
      rw [if_neg positive]
      omega
  zero isZero := by
    rw [isZero]
    rfl

end Numeral

namespace Decoder

open Numeral

variable {numeral : Numeral}

theorem whole_eq_some_iff {least greatest value : Int} :
    whole least greatest (.number numeral) = some value ↔
      numeral.IsInt value ∧ least ≤ value ∧ value ≤ greatest := by
  rw [whole, Option.bind_eq_some_iff]
  constructor
  · rintro ⟨read, shown, kept⟩
    split at kept
    next within =>
      rw [← Option.some.inj kept]
      exact ⟨toInt?_eq_some_iff.mp shown, within⟩
    next => cases kept
  · rintro ⟨shown, within⟩
    exact ⟨value, toInt?_eq_some_iff.mpr shown, if_pos within⟩

theorem int16_eq_some_iff {value : Int16} :
    int16 (.number numeral) = some value ↔ numeral.IsInt value.toInt := by
  rw [int16, Option.map_eq_some_iff]
  constructor
  · rintro ⟨read, shown, rfl⟩
    obtain ⟨shown, low, high⟩ := whole_eq_some_iff.mp shown
    rwa [Int16.toInt_ofInt_of_le low (by omega)]
  · intro shown
    have low : -32768 ≤ value.toInt := value.le_toInt
    have high : value.toInt < 32768 := value.toInt_lt
    exact ⟨value.toInt, whole_eq_some_iff.mpr ⟨shown, low, by omega⟩, value.ofInt_toInt⟩

theorem int32_eq_some_iff {value : Int32} :
    int32 (.number numeral) = some value ↔ numeral.IsInt value.toInt := by
  rw [int32, Option.map_eq_some_iff]
  constructor
  · rintro ⟨read, shown, rfl⟩
    obtain ⟨shown, low, high⟩ := whole_eq_some_iff.mp shown
    rwa [Int32.toInt_ofInt_of_le low (by omega)]
  · intro shown
    have low : -2147483648 ≤ value.toInt := value.le_toInt
    have high : value.toInt < 2147483648 := value.toInt_lt
    exact ⟨value.toInt, whole_eq_some_iff.mpr ⟨shown, low, by omega⟩, value.ofInt_toInt⟩

theorem uint8_eq_some_iff {value : UInt8} :
    uint8 (.number numeral) = some value ↔ numeral.IsInt value.toNat := by
  rw [uint8, Option.map_eq_some_iff]
  constructor
  · rintro ⟨read, shown, rfl⟩
    obtain ⟨shown, low, high⟩ := whole_eq_some_iff.mp shown
    have small : read.toNat < UInt8.size := by
      rw [UInt8.size]
      omega
    rwa [UInt8.toNat_ofNat_of_lt' small, Int.toNat_of_nonneg low]
  · intro shown
    have high : value.toNat < 256 := value.toNat_lt
    refine ⟨value.toNat, whole_eq_some_iff.mpr ⟨shown, Int.natCast_nonneg _, by omega⟩, ?_⟩
    rw [Int.toNat_natCast, UInt8.ofNat_toNat]

theorem uint32_eq_some_iff {value : UInt32} :
    uint32 (.number numeral) = some value ↔ numeral.IsInt value.toNat := by
  rw [uint32, Option.map_eq_some_iff]
  constructor
  · rintro ⟨read, shown, rfl⟩
    obtain ⟨shown, low, high⟩ := whole_eq_some_iff.mp shown
    have small : read.toNat < UInt32.size := by
      rw [UInt32.size]
      omega
    rwa [UInt32.toNat_ofNat_of_lt' small, Int.toNat_of_nonneg low]
  · intro shown
    have high : value.toNat < 4294967296 := value.toNat_lt
    refine ⟨value.toNat, whole_eq_some_iff.mpr ⟨shown, Int.natCast_nonneg _, by omega⟩, ?_⟩
    rw [Int.toNat_natCast, UInt32.ofNat_toNat]

end Decoder

namespace Numeral

/-! ## Numbers of the binary format -/

/-- The digits of a decimal as the data format writes them. -/
def ofDecimal (negative : Bool) (decimal : Decimal) : Numeral :=
  let row := decimal.row
  let first := decimal.firstPlace
  if ¬ Layout.data.isPositional first then
    ⟨negative, row.take 1, row.drop 1, some (decide (first < 0), digits first.natAbs)⟩
  else if first < 0 then ⟨negative, ['0'], zeros (-first - 1).toNat ++ row, none⟩
  else if row.length ≤ first.toNat + 1 then
    ⟨negative, row ++ zeros (first.toNat + 1 - row.length), ['0'], none⟩
  else ⟨negative, row.take (first.toNat + 1), row.drop (first.toNat + 1), none⟩

variable {decimal : Decimal}

/-- The four ways to write the digits of a decimal, by where the first and the last one stand. -/
theorem ofDecimal_cases (negative : Bool) (nonzero : decimal.significand ≠ 0) :
    (Layout.data.isPositional decimal.firstPlace = false ∧
      ofDecimal negative decimal = ⟨negative, decimal.row.take 1, decimal.row.drop 1,
        some (decide (decimal.firstPlace < 0), digits decimal.firstPlace.natAbs)⟩) ∨
    (Layout.data.isPositional decimal.firstPlace = true ∧ decimal.firstPlace < 0 ∧
      ofDecimal negative decimal =
        ⟨negative, ['0'], zeros (-decimal.firstPlace - 1).toNat ++ decimal.row, none⟩) ∨
    (Layout.data.isPositional decimal.firstPlace = true ∧ 0 ≤ decimal.firstPlace ∧
      0 ≤ decimal.lastPlace ∧ ofDecimal negative decimal =
        ⟨negative, decimal.row ++ zeros decimal.lastPlace.toNat, ['0'], none⟩) ∨
    (Layout.data.isPositional decimal.firstPlace = true ∧ 0 ≤ decimal.firstPlace ∧
      decimal.lastPlace < 0 ∧ ofDecimal negative decimal =
        ⟨negative, decimal.row.take (decimal.firstPlace.toNat + 1),
          decimal.row.drop (decimal.firstPlace.toNat + 1), none⟩) := by
  have filled := List.length_pos_iff.mpr (Decimal.row_ne_nil nonzero)
  have places : decimal.firstPlace = decimal.lastPlace + decimal.row.length - 1 := rfl
  rw [ofDecimal]
  cases positional : Layout.data.isPositional decimal.firstPlace with
  | false => exact .inl ⟨rfl, if_pos Bool.false_ne_true⟩
  | true =>
      right
      rw [if_neg (not_not_intro rfl)]
      by_cases small : decimal.firstPlace < 0
      · exact .inl ⟨rfl, small, if_pos small⟩
      · right
        have least := Int.not_lt.mp small
        rw [if_neg small]
        by_cases whole : 0 ≤ decimal.lastPlace
        · have count : decimal.firstPlace.toNat + 1 - decimal.row.length =
              decimal.lastPlace.toNat := by omega
          have short : decimal.row.length ≤ decimal.firstPlace.toNat + 1 := by omega
          rw [← count]
          exact .inl ⟨rfl, least, whole, if_pos short⟩
        · have long : ¬ decimal.row.length ≤ decimal.firstPlace.toNat + 1 := by omega
          exact .inr ⟨rfl, least, Int.not_le.mp whole, if_neg long⟩

theorem text_mk {negative : Bool} {whole fraction : List Char}
    {exponent : Option (Bool × List Char)} (nonempty : fraction ≠ []) :
    text ⟨negative, whole, fraction, exponent⟩ =
      signMark negative ++ (whole ++ '.' :: (fraction ++ exponentText exponent)) := by
  rw [text, fractionText, if_neg nonempty]
  rfl

theorem text_ofDecimal (negative : Bool) (nonzero : decimal.significand ≠ 0) :
    (ofDecimal negative decimal).text = signMark negative ++
      if Layout.data.isPositional decimal.firstPlace then
        placeDigits ".0" decimal.row decimal.firstPlace
      else scientific decimal.row decimal.firstPlace := by
  have filled := Decimal.row_ne_nil nonzero
  have places : decimal.firstPlace = decimal.lastPlace + decimal.row.length - 1 := rfl
  rcases ofDecimal_cases negative nonzero with ⟨free, same⟩ | ⟨free, small, same⟩ |
    ⟨free, least, whole, same⟩ | ⟨free, least, part, same⟩
  · rw [same, free, if_neg Bool.false_ne_true]
    cases row : decimal.row with
    | nil => exact absurd row filled
    | cons first rest => cases rest <;> simp [text, fractionText, exponentText, scientific]
  · rw [same, free, if_pos rfl, placeDigits, if_pos small, text_mk (by simp [filled])]
    simp [exponentText]
  · have count : decimal.firstPlace.toNat + 1 - decimal.row.length =
        decimal.lastPlace.toNat := by omega
    have short : decimal.row.length ≤ decimal.firstPlace.toNat + 1 := by omega
    rw [same, free, if_pos rfl, placeDigits, if_neg (Int.not_lt.mpr least), text_mk (by simp)]
    simp [short, count, exponentText]
  · have long : ¬ decimal.row.length ≤ decimal.firstPlace.toNat + 1 := by omega
    rw [same, free, if_pos rfl, placeDigits, if_neg (Int.not_lt.mpr least), if_neg long,
      text_mk (by simpa using Nat.lt_of_not_le long)]
    simp [exponentText]

/-- A row that starts as the digits of a decimal do is no zero before other digits. -/
theorem leading_of_head? {row : List Char} (nonzero : decimal.significand ≠ 0)
    (same : row.head? = decimal.row.head?) : row.head? = some '0' → row = ['0'] := by
  rw [same]
  intro zero
  exact absurd zero (Decimal.head?_row nonzero)

theorem wf_ofDecimal (negative : Bool) (nonzero : decimal.significand ≠ 0) :
    (ofDecimal negative decimal).WF := by
  have filled := Decimal.row_ne_nil nonzero
  have row := decimal.allDigits_row
  have zero : AllDigits ['0'] := .zeros 1
  rcases ofDecimal_cases negative nonzero with ⟨-, same⟩ | ⟨-, -, same⟩ | ⟨-, -, -, same⟩ |
    ⟨-, -, -, same⟩
  · rw [same]
    refine ⟨row.take 1, by simp [filled], ?_, row.drop 1, ?_⟩
    · exact leading_of_head? nonzero (by rw [List.head?_take, if_neg Nat.one_ne_zero])
    · rintro _ _ ⟨⟩
      exact ⟨allDigits_digits _, digits_ne_nil _⟩
  · rw [same]
    exact ⟨zero, List.cons_ne_nil _ _, fun _ => rfl, .append (.zeros _) row, by rintro _ _ ⟨⟩⟩
  · rw [same]
    refine ⟨row.append (.zeros _), by simp [filled], ?_, zero, by rintro _ _ ⟨⟩⟩
    exact leading_of_head? nonzero (List.head?_append_of_ne_nil _ filled)
  · rw [same]
    refine ⟨row.take _, by simp [filled], ?_, row.drop _, by rintro _ _ ⟨⟩⟩
    exact leading_of_head? nonzero (by rw [List.head?_take, if_neg (Nat.succ_ne_zero _)])

theorem power_mk {negative : Bool} {whole fraction : List Char} (exponent : Int) :
    power ⟨negative, whole, fraction,
      some (decide (exponent < 0), digits exponent.natAbs)⟩ = exponent := by
  simp only [power, ofDigits_digits]
  by_cases small : exponent < 0
  · rw [decide_eq_true small, if_pos rfl]
    omega
  · rw [decide_eq_false small, if_neg Bool.false_ne_true]
    omega

theorem isPositional_data (place : Int) :
    Layout.data.isPositional place = true ↔ -5 ≤ place ∧ place ≤ 15 := by
  simp [Layout.isPositional, Layout.data]

/-- The reader takes all digits: a whole number with one zero after the point, and otherwise the
digits that are shown. -/
theorem toBinary64?_ofDecimal (negative : Bool) (nonzero : decimal.significand ≠ 0)
    (short : ofDigits decimal.row ≤ tenTo 17) :
    (ofDecimal negative decimal).toBinary64? =
      if 0 ≤ decimal.lastPlace ∧ decimal.firstPlace ≤ 15 then
        scale negative (ofDigits decimal.row * tenTo (decimal.lastPlace.toNat + 1)) (-1)
      else scale negative (ofDigits decimal.row) decimal.lastPlace := by
  have filled := List.length_pos_iff.mpr (Decimal.row_ne_nil nonzero)
  have places : decimal.firstPlace = decimal.lastPlace + decimal.row.length - 1 := rfl
  have word : tenTo 17 ≤ wordMax := by decide
  have fits := Nat.le_trans short word
  have bound := isPositional_data decimal.firstPlace
  rcases ofDecimal_cases negative nonzero with ⟨free, same⟩ | ⟨free, small, same⟩ |
    ⟨free, least, whole, same⟩ | ⟨free, least, part, same⟩
  · have far : ¬ (0 ≤ decimal.lastPlace ∧ decimal.firstPlace ≤ 15) := by
      rw [free] at bound
      have outside := mt bound.mpr Bool.false_ne_true
      omega
    have rows : decimal.row.take 1 ++ decimal.row.drop 1 = decimal.row :=
      List.take_append_drop 1 _
    rw [same, if_neg far, toBinary64?_eq (by rw [rows]; exact fits), power_mk]
    simp only [rows, List.length_drop]
    exact congrArg _ (by omega)
  · have far : ¬ (0 ≤ decimal.lastPlace ∧ decimal.firstPlace ≤ 15) := by omega
    have value : ofDigits (['0'] ++ (zeros (-decimal.firstPlace - 1).toNat ++ decimal.row)) =
        ofDigits decimal.row :=
      (ofDigits_zeros_append 1 _).trans (ofDigits_zeros_append _ _)
    rw [same, if_neg far, toBinary64?_eq (by rw [value]; exact fits)]
    simp only [value, power, List.length_append, length_zeros]
    exact congrArg _ (by omega)
  · have near : 0 ≤ decimal.lastPlace ∧ decimal.firstPlace ≤ 15 :=
      ⟨whole, (bound.mp free).2⟩
    have value : ofDigits (decimal.row ++ zeros decimal.lastPlace.toNat ++ ['0']) =
        ofDigits decimal.row * tenTo (decimal.lastPlace.toNat + 1) := by
      rw [tenTo_add, ← Nat.mul_assoc, ← ofDigits_append_zeros]
      exact ofDigits_append_zeros _ 1
    have fits' : ofDigits decimal.row * tenTo (decimal.lastPlace.toNat + 1) ≤ wordMax := by
      refine Nat.le_trans ?_ word
      calc ofDigits decimal.row * tenTo (decimal.lastPlace.toNat + 1)
          ≤ tenTo decimal.row.length * tenTo (decimal.lastPlace.toNat + 1) :=
            Nat.mul_le_mul_right _ (Nat.le_of_lt decimal.ofDigits_row_lt)
        _ ≤ tenTo 17 := by
            rw [← tenTo_add]
            exact tenTo_le_tenTo (by omega)
    rw [same, if_pos near, toBinary64?_eq (by rw [value]; exact fits')]
    simp only [value]
    rfl
  · have far : ¬ (0 ≤ decimal.lastPlace ∧ decimal.firstPlace ≤ 15) := by omega
    have rows : decimal.row.take (decimal.firstPlace.toNat + 1) ++
        decimal.row.drop (decimal.firstPlace.toNat + 1) = decimal.row :=
      List.take_append_drop _ _
    rw [same, if_neg far, toBinary64?_eq (by rw [rows]; exact fits)]
    simp only [rows, power, List.length_drop]
    exact congrArg _ (by omega)

end Numeral

end Rover.Json
