import Rover.Proofs.Entry

/-!
# The grammar of entered numbers

Which texts are numbers is said here without the readers: a row of digits is worth the sum of its
digits, each at its place, and a number with a fraction is put together from its parts. The readers
accept just these texts, and of a whole number they give its worth.
-/

namespace Rover

/-! ## Rows of digits -/

/-- A row of at least one decimal digit and its worth. The digit in front of others stands for as
many tens as there are others. -/
inductive DigitRow : List Char → Nat → Prop where
  | last {char : Char} (digit : char.isDigit = true) : DigitRow [char] (digitValue char)
  | cons {char : Char} (digit : char.isDigit = true) {rest : List Char} {worth : Nat}
      (row : DigitRow rest worth) :
      DigitRow (char :: rest) (digitValue char * tenTo rest.length + worth)

theorem ofDigits_cons (char : Char) (rest : List Char) :
    ofDigits (char :: rest) = digitValue char * tenTo rest.length + ofDigits rest := by
  have single : ofDigits [char] = digitValue char := Nat.zero_add _
  rw [← List.singleton_append, ofDigits_append, single]

namespace DigitRow

variable {chars : List Char} {worth : Nat}

theorem ne_nil (row : DigitRow chars worth) : chars ≠ [] := by
  cases row <;> exact List.cons_ne_nil _ _

theorem allDigits (row : DigitRow chars worth) : AllDigits chars := by
  induction row with
  | last digit => exact List.forall_mem_singleton.mpr digit
  | cons digit _ ih => exact List.forall_mem_cons.mpr ⟨digit, ih⟩

theorem ofDigits_eq (row : DigitRow chars worth) : ofDigits chars = worth := by
  induction row with
  | last digit => exact Nat.zero_add _
  | cons digit _ ih => rw [ofDigits_cons, ih]

/-- Every row of digits has its worth. -/
theorem of_allDigits (digits : AllDigits chars) (filled : chars ≠ []) :
    DigitRow chars (ofDigits chars) := by
  induction chars with
  | nil => exact absurd rfl filled
  | cons char rest ih =>
      obtain ⟨digit, others⟩ := List.forall_mem_cons.mp digits
      by_cases single : rest = []
      · subst single
        have worth : ofDigits [char] = digitValue char := Nat.zero_add _
        rw [worth]
        exact .last digit
      · rw [ofDigits_cons]
        exact .cons digit (ih others single)

end DigitRow

/-- The reader of digits accepts just the rows of digits, at their worth. -/
theorem readDigits_eq_some_iff {chars : List Char} {worth : Nat} :
    readDigits chars = some worth ↔ DigitRow chars worth := by
  constructor
  · intro read
    rw [readDigits] at read
    split at read
    next row =>
      obtain ⟨filled, digits⟩ := row
      rw [← Option.some.inj read]
      exact .of_allDigits (List.all_eq_true.mp digits) filled
    next => cases read
  · intro row
    rw [readDigits, if_pos ⟨row.ne_nil, List.all_eq_true.mpr row.allDigits⟩, row.ofDigits_eq]

theorem readDigits_isSome_iff {chars : List Char} :
    (readDigits chars).isSome = true ↔ ∃ worth, DigitRow chars worth := by
  simp only [Option.isSome_iff_exists, readDigits_eq_some_iff]

/-! ## Whole numbers -/

/-- The texts of a whole number: a row of digits after an optional plus sign or, where numbers
below zero exist, an optional minus sign. -/
inductive WholeText (signed : Bool) : List Char → Int → Prop where
  | bare {chars : List Char} {worth : Nat} (row : DigitRow chars worth) :
      WholeText signed chars worth
  | plus {chars : List Char} {worth : Nat} (row : DigitRow chars worth) :
      WholeText signed ('+' :: chars) worth
  | minus (below : signed = true) {chars : List Char} {worth : Nat} (row : DigitRow chars worth) :
      WholeText signed ('-' :: chars) (-worth)

/-- The reader of whole numbers accepts just their texts. -/
theorem readWhole_eq_some_iff {signed : Bool} {chars : List Char} {value : Int} :
    readWhole signed chars = some value ↔ WholeText signed chars value := by
  constructor
  · intro read
    unfold readWhole at read
    split at read
    next =>
      obtain ⟨worth, row, rfl⟩ := Option.map_eq_some_iff.mp read
      exact .plus (readDigits_eq_some_iff.mp row)
    next =>
      split at read
      next below =>
        obtain ⟨worth, row, rfl⟩ := Option.map_eq_some_iff.mp read
        exact .minus below (readDigits_eq_some_iff.mp row)
      next => cases read
    next =>
      obtain ⟨worth, row, rfl⟩ := Option.map_eq_some_iff.mp read
      exact .bare (readDigits_eq_some_iff.mp row)
  · intro text
    cases text with
    | bare row =>
        rw [readWhole_of_allDigits row.allDigits, readDigits_eq_some_iff.mpr row]
        rfl
    | plus row =>
        change (readDigits _).map _ = _
        rw [readDigits_eq_some_iff.mpr row]
        rfl
    | minus below row =>
        change (if signed = true then (readDigits _).map _ else none) = _
        rw [if_pos below, readDigits_eq_some_iff.mpr row]
        rfl

/-! ## Numbers with a fraction -/

/-- Digits with an optional point, and at least one digit on either side of it. -/
inductive PointText : List Char → Prop where
  | whole {row : List Char} (digits : AllDigits row) (filled : row ≠ []) : PointText row
  | pointed {row row' : List Char} (digits : AllDigits row) (digits' : AllDigits row')
      (filled : row ≠ [] ∨ row' ≠ []) : PointText (row ++ '.' :: row')

/-- An optional power of ten. -/
inductive PowerText : List Char → Prop where
  | none : PowerText []
  | unsigned {mark : Char} (letter : mark = 'e' ∨ mark = 'E') {row : List Char} {worth : Nat}
      (digits : DigitRow row worth) : PowerText (mark :: row)
  | signed {mark sign : Char} (letter : mark = 'e' ∨ mark = 'E') (signs : sign = '+' ∨ sign = '-')
      {row : List Char} {worth : Nat} (digits : DigitRow row worth) :
      PowerText (mark :: sign :: row)

/-- The words for infinity and for no number. -/
def numberWords : List (List Char) := ["inf".toList, "infinity".toList, "nan".toList]

/-- The texts of a number without its sign: digits with an optional point and an optional power of
ten, or one of the words in any case of its letters. -/
inductive MagnitudeText : List Char → Prop where
  | word {chars : List Char} (listed : chars.map Char.toLower ∈ numberWords) : MagnitudeText chars
  | numeral {first second : List Char} (point : PointText first) (power : PowerText second) :
      MagnitudeText (first ++ second)

/-- The texts of a number that need not be whole. -/
inductive FractionText : List Char → Prop where
  | bare {chars : List Char} (magnitude : MagnitudeText chars) : FractionText chars
  | signed {sign : Char} (signs : sign = '+' ∨ sign = '-') {chars : List Char}
      (magnitude : MagnitudeText chars) : FractionText (sign :: chars)

/-! ### Their readers -/

/-- Neither a digit nor the point stands where a power starts. -/
theorem PowerText.stops {chars : List Char} (power : PowerText chars) :
    StopsDigits chars ∧ Decimal.readFraction chars = ([], chars) := by
  have marked : ∀ {mark : Char} (rest : List Char), mark = 'e' ∨ mark = 'E' →
      StopsDigits (mark :: rest) ∧ Decimal.readFraction (mark :: rest) = ([], mark :: rest) := by
    rintro mark rest (rfl | rfl)
    · exact ⟨by rintro _ ⟨⟩; rfl, rfl⟩
    · exact ⟨by rintro _ ⟨⟩; rfl, rfl⟩
  cases power with
  | none => exact ⟨by rintro _ ⟨⟩, rfl⟩
  | unsigned letter => exact marked _ letter
  | signed letter => exact marked _ letter

namespace Decimal

open Json.Numeral.ExponentText (readSign_of_digit)

theorem readSign_digitRow {row : List Char} {worth : Nat} (digits : DigitRow row worth) :
    readSign row = (false, row) := by
  have bare : readSign (row ++ []) = _ := readSign_of_digit digits.allDigits digits.ne_nil
  rwa [List.append_nil] at bare

theorem readExponent_isSome_iff {chars : List Char} :
    (readExponent chars).isSome = true ↔ PowerText chars := by
  constructor
  · intro read
    cases chars with
    | nil => exact .none
    | cons mark rest =>
        rw [readExponent] at read
        split at read
        next letter =>
          rw [Option.isSome_map] at read
          obtain ⟨worth, digits⟩ := readDigits_isSome_iff.mp read
          unfold readSign at digits
          split at digits
          next => exact .signed letter (.inr rfl) digits
          next => exact .signed letter (.inl rfl) digits
          next => exact .unsigned letter digits
        next => cases read
  · intro power
    cases power with
    | none => rfl
    | unsigned letter digits =>
        rw [readExponent, if_pos letter, readSign_digitRow digits, Option.isSome_map]
        exact readDigits_isSome_iff.mpr ⟨_, digits⟩
    | signed letter signs digits =>
        rw [readExponent, if_pos letter, Option.isSome_map]
        rcases signs with rfl | rfl <;> exact readDigits_isSome_iff.mpr ⟨_, digits⟩

/-- What is read before the power of ten, and what is left for it. -/
theorem read_isSome_iff_parts {negative : Bool} {chars whole rest fraction power : List Char}
    (span : spanDigits chars = (whole, rest)) (point : readFraction rest = (fraction, power)) :
    (read negative chars).isSome = true ↔
      (whole ≠ [] ∨ fraction ≠ []) ∧ PowerText power := by
  simp only [read, span, point]
  by_cases empty : whole = [] ∧ fraction = []
  · rw [if_pos empty]
    exact iff_of_false Bool.false_ne_true fun filled => filled.1.elim (· empty.1) (· empty.2)
  · rw [if_neg empty, Option.isSome_map, readExponent_isSome_iff, ← not_and_or]
    exact (and_iff_right empty).symm

theorem allDigits_takeWhile (chars : List Char) : AllDigits (chars.takeWhile Char.isDigit) :=
  fun _ inside => List.mem_takeWhile_imp inside

/-- The reader of decimals accepts digits with a point and then a power of ten. -/
theorem read_isSome_iff {negative : Bool} {chars : List Char} :
    (read negative chars).isSome = true ↔
      ∃ first second, chars = first ++ second ∧ PointText first ∧ PowerText second := by
  constructor
  · intro read
    have digits := allDigits_takeWhile chars
    have span : spanDigits chars = (_, _) := rfl
    have split : chars = _ ++ _ := (List.takeWhile_append_dropWhile (p := Char.isDigit)).symm
    generalize chars.takeWhile Char.isDigit = whole at digits span split
    generalize chars.dropWhile Char.isDigit = rest at span split
    cases point : readFraction rest with
    | mk fraction power =>
        obtain ⟨filled, powers⟩ := (read_isSome_iff_parts span point).mp read
        unfold readFraction at point
        split at point
        next after =>
          cases point
          refine ⟨whole ++ '.' :: after.takeWhile Char.isDigit, _, ?_,
            .pointed digits (allDigits_takeWhile after) filled, powers⟩
          rw [split, List.append_assoc, List.cons_append, List.takeWhile_append_dropWhile]
        next =>
          cases point
          have nonempty : whole ≠ [] := filled.resolve_right fun other => other rfl
          exact ⟨whole, _, split, .whole digits nonempty, powers⟩
  · rintro ⟨first, second, rfl, point, power⟩
    obtain ⟨stops, noFraction⟩ := power.stops
    cases point with
    | whole digits filled =>
        exact (read_isSome_iff_parts (spanDigits_append digits stops) noFraction).mpr
          ⟨.inl filled, power⟩
    | @pointed row row' digits digits' filled =>
        have whole : spanDigits (row ++ '.' :: (row' ++ second)) =
            (row, '.' :: (row' ++ second)) :=
          spanDigits_append digits (by rintro _ ⟨⟩; rfl)
        rw [List.append_assoc, List.cons_append]
        exact (read_isSome_iff_parts whole (spanDigits_append digits' stops)).mpr ⟨filled, power⟩

end Decimal

theorem readSign_of_head? {chars : List Char}
    (bare : ∀ char ∈ chars.head?, char ≠ '-' ∧ char ≠ '+') : readSign chars = (false, chars) := by
  unfold readSign
  split
  next => exact absurd rfl (bare '-' rfl).1
  next => exact absurd rfl (bare '+' rfl).2
  next => rfl

/-- Digits with a point start with a digit or the point. -/
theorem PointText.head?_append {first : List Char} (point : PointText first) (rest : List Char) :
    ∃ char, (first ++ rest).head? = some char ∧ (char.isDigit = true ∨ char = '.') := by
  cases point with
  | whole digits filled =>
      cases first with
      | nil => exact absurd rfl filled
      | cons char more => exact ⟨char, rfl, .inl (digits char List.mem_cons_self)⟩
  | @pointed row row' digits digits' filled =>
      cases row with
      | nil => exact ⟨'.', rfl, .inr rfl⟩
      | cons char more => exact ⟨char, rfl, .inl (digits char List.mem_cons_self)⟩

/-- No sign stands in front of a magnitude. -/
theorem MagnitudeText.readSign_eq {chars : List Char} (magnitude : MagnitudeText chars) :
    readSign chars = (false, chars) := by
  apply readSign_of_head?
  intro char first
  cases magnitude with
  | word listed =>
      have letter : ∃ word ∈ numberWords, word.head? = some char.toLower := by
        refine ⟨_, listed, ?_⟩
        rw [List.head?_map, Option.mem_def.mp first, Option.map_some]
      constructor
      · rintro rfl
        exact absurd letter (by decide)
      · rintro rfl
        exact absurd letter (by decide)
  | numeral point power =>
      obtain ⟨char', first', begins⟩ := point.head?_append _
      rw [Option.mem_def.mp first] at first'
      obtain rfl := Option.some.inj first'
      constructor
      · rintro rfl
        exact absurd begins (by decide)
      · rintro rfl
        exact absurd begins (by decide)

namespace Binary64

/-- The sign is read first. -/
theorem read_isSome_iff_magnitude {chars : List Char} :
    (read chars).isSome = true ↔ MagnitudeText (readSign chars).2 := by
  simp only [read]
  split
  next infinite =>
    refine iff_of_true rfl (.word ?_)
    rcases infinite with short | long
    · rw [short]
      exact List.mem_cons_self
    · rw [long]
      exact List.mem_cons_of_mem _ List.mem_cons_self
  next finite =>
    split
    next isNan =>
      refine iff_of_true rfl (.word ?_)
      rw [isNan]
      exact List.mem_cons_of_mem _ (List.mem_cons_of_mem _ List.mem_cons_self)
    next notNan =>
      rw [Option.isSome_map, Decimal.read_isSome_iff]
      constructor
      · rintro ⟨first, second, split, point, power⟩
        rw [split]
        exact .numeral point power
      · generalize (readSign chars).2 = rest at finite notNan
        intro magnitude
        cases magnitude with
        | word listed =>
            simp only [numberWords, List.mem_cons, List.not_mem_nil, or_false] at listed
            rcases listed with short | long | isNan
            · exact absurd (.inl short) finite
            · exact absurd (.inr long) finite
            · exact absurd isNan notNan
        | numeral point power => exact ⟨_, _, rfl, point, power⟩

/-- The reader of numbers accepts just their texts. -/
theorem read_isSome_iff {chars : List Char} : (read chars).isSome = true ↔ FractionText chars := by
  rw [read_isSome_iff_magnitude]
  constructor
  · intro magnitude
    unfold readSign at magnitude
    split at magnitude
    next => exact .signed (.inr rfl) magnitude
    next => exact .signed (.inl rfl) magnitude
    next => exact .bare magnitude
  · intro text
    cases text with
    | bare magnitude => rwa [magnitude.readSign_eq]
    | signed signs magnitude =>
        rcases signs with rfl | rfl
        · exact magnitude
        · exact magnitude

end Binary64

end Rover
