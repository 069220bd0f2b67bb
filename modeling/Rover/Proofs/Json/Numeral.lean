import Rover.Json.Number
import Rover.Json.Reader
import Rover.Proofs.Decimal.Rows

/-!
# Written numbers

A text of a number is put together from its rows of digits. Read from a longer text, it gives these
rows again, provided that what follows cannot be taken for more of the number. Only its exponent can
be written in more than one way.
-/

namespace Rover

/-- The text does not start with a digit. -/
def StopsDigits (rest : List Char) : Prop := ∀ char ∈ rest.head?, char.isDigit = false

theorem spanDigits_append {row rest : List Char} (digits : AllDigits row)
    (stops : StopsDigits rest) : spanDigits (row ++ rest) = (row, rest) := by
  have empty : rest.takeWhile Char.isDigit = [] ∧ rest.dropWhile Char.isDigit = rest := by
    cases rest with
    | nil => exact ⟨rfl, rfl⟩
    | cons char rest =>
        have other : ¬ char.isDigit = true := by
          rw [stops char rfl]
          exact Bool.false_ne_true
        exact ⟨List.takeWhile_cons_of_neg other, List.dropWhile_cons_of_neg other⟩
  rw [spanDigits, List.takeWhile_append_of_pos digits, List.dropWhile_append_of_pos digits, empty.1,
    empty.2, List.append_nil]

namespace Json

/-- The characters that can go on a number after its digits. -/
def continuesNumeral (char : Char) : Bool :=
  char.isDigit || char = '.' || char = 'e' || char = 'E'

/-- The text cannot be taken for more of a number that stands before it. -/
def Delimited (rest : List Char) : Prop := ∀ char ∈ rest.head?, continuesNumeral char = false

theorem Delimited.stopsDigits {rest : List Char} (delimited : Delimited rest) :
    StopsDigits rest := by
  intro char first
  have other := delimited char first
  simp only [continuesNumeral, Bool.or_eq_false_iff] at other
  exact other.1.1.1

namespace Numeral

/-- The digits after the point, with the point; without digits there is none. -/
def fractionText (fraction : List Char) : List Char :=
  if fraction = [] then [] else '.' :: fraction

/-- The texts of an exponent. Its mark is of either case, and a plus sign may be left out. -/
inductive ExponentText : Option (Bool × List Char) → List Char → Prop where
  | none : ExponentText none []
  | unsigned {mark : Char} {row : List Char} (letter : mark = 'e' ∨ mark = 'E') :
      ExponentText (some (false, row)) (mark :: row)
  | signed {mark : Char} {row : List Char} (letter : mark = 'e' ∨ mark = 'E') (negative : Bool) :
      ExponentText (some (negative, row)) (mark :: (if negative then '-' else '+') :: row)

/-- The exponent as the printer writes it. Its sign is always written. -/
def exponentText : Option (Bool × List Char) → List Char
  | none => []
  | some (negative, row) => 'e' :: (if negative then '-' else '+') :: row

/-- The text of a number as the printer writes it. -/
def text (numeral : Numeral) : List Char :=
  signMark numeral.negative ++ (numeral.whole ++
    (fractionText numeral.fraction ++ exponentText numeral.exponent))

/-- The texts of a number. -/
def WrittenAs (numeral : Numeral) (chars : List Char) : Prop :=
  ∃ written, ExponentText numeral.exponent written ∧
    chars = signMark numeral.negative ++ (numeral.whole ++
      (fractionText numeral.fraction ++ written))

theorem exponentText_written : ∀ exponent, ExponentText exponent (exponentText exponent)
  | none => .none
  | some (negative, _) => .signed (.inl rfl) negative

theorem writtenAs_text (numeral : Numeral) : numeral.WrittenAs numeral.text :=
  ⟨_, exponentText_written numeral.exponent, rfl⟩

/-- The rows of the number are rows of digits, and no zero leads the whole part without need. -/
structure WF (numeral : Numeral) : Prop where
  whole : AllDigits numeral.whole
  some_whole : numeral.whole ≠ []
  leading : numeral.whole.head? = some '0' → numeral.whole = ['0']
  fraction : AllDigits numeral.fraction
  exponent : ∀ negative row, numeral.exponent = some (negative, row) → AllDigits row ∧ row ≠ []

namespace ExponentText

variable {exponent : Option (Bool × List Char)} {written rest : List Char}

/-- Neither a digit nor the point stands where the exponent starts. -/
theorem stops (shown : ExponentText exponent written) (delimited : Delimited rest) :
    StopsDigits (written ++ rest) ∧ (written ++ rest).head? ≠ some '.' := by
  have marked : ∀ {mark : Char} {more : List Char}, mark = 'e' ∨ mark = 'E' →
      StopsDigits (mark :: more) ∧ (mark :: more).head? ≠ some '.' := by
    rintro mark more (rfl | rfl)
    · exact ⟨by rintro _ ⟨⟩; rfl, by rintro ⟨⟩⟩
    · exact ⟨by rintro _ ⟨⟩; rfl, by rintro ⟨⟩⟩
  cases shown with
  | none =>
      refine ⟨delimited.stopsDigits, ?_⟩
      intro point
      cases delimited '.' point
  | unsigned letter => exact marked letter
  | signed letter => exact marked letter

theorem readSign_of_digit {row : List Char} (digits : AllDigits row) (filled : row ≠ []) :
    readSign (row ++ rest) = (false, row ++ rest) := by
  cases row with
  | nil => exact absurd rfl filled
  | cons first row =>
      have digit := digits first List.mem_cons_self
      rw [List.cons_append, readSign]
      · rintro _ ⟨⟩
        cases digit
      · rintro _ ⟨⟩
        cases digit

theorem readNumeralExponent_append (shown : ExponentText exponent written)
    (rows : ∀ negative row, exponent = some (negative, row) → AllDigits row ∧ row ≠ [])
    (delimited : Delimited rest) :
    readNumeralExponent (written ++ rest) = some (exponent, rest) := by
  cases shown with
  | none =>
      cases rest with
      | nil => rfl
      | cons char rest =>
          have other := delimited char rfl
          have letters : ¬ (char = 'e' ∨ char = 'E') := by
            rintro (rfl | rfl)
            · cases other
            · cases other
          change readNumeralExponent (char :: rest) = _
          rw [readNumeralExponent, if_neg letters]
  | @unsigned mark row letter =>
      obtain ⟨digits, filled⟩ := rows false row rfl
      rw [List.cons_append, readNumeralExponent, if_pos letter, readSign_of_digit digits filled]
      simp only [spanDigits_append digits delimited.stopsDigits, if_neg filled]
  | @signed mark row letter negative =>
      obtain ⟨digits, filled⟩ := rows negative row rfl
      have sign : readSign ((if negative then '-' else '+') :: (row ++ rest)) =
          (negative, row ++ rest) := by
        cases negative <;> rfl
      rw [List.cons_append, readNumeralExponent, if_pos letter, List.cons_append, sign]
      simp only [spanDigits_append digits delimited.stopsDigits, if_neg filled]

end ExponentText

theorem readNumeralFraction_append {fraction rest : List Char} (digits : AllDigits fraction)
    (stops : StopsDigits rest) (point : rest.head? ≠ some '.') :
    readNumeralFraction (fractionText fraction ++ rest) = some (fraction, rest) := by
  by_cases empty : fraction = []
  · rw [fractionText, if_pos empty, empty]
    cases rest with
    | nil => rfl
    | cons char rest =>
        have other : char ≠ '.' := fun same => point (congrArg some same)
        change readNumeralFraction (char :: rest) = _
        rw [readNumeralFraction]
        intro _ same
        exact other (List.cons.inj same).1
  · rw [fractionText, if_neg empty]
    change readNumeralFraction ('.' :: (fraction ++ rest)) = _
    rw [readNumeralFraction, spanDigits_append digits stops]
    exact if_neg empty

variable {numeral : Numeral} {chars written rest : List Char}

/-- Every text of a number starts with its sign or with a digit. -/
theorem WF.exists_cons (valid : numeral.WF) (shown : numeral.WrittenAs chars) :
    ∃ first more, chars = first :: more ∧ (first = '-' ∨ first.isDigit = true) := by
  obtain ⟨written, -, rfl⟩ := shown
  cases sign : numeral.negative with
  | true => exact ⟨'-', _, rfl, .inl rfl⟩
  | false =>
      cases whole : numeral.whole with
      | nil => exact absurd whole valid.some_whole
      | cons first more =>
          refine ⟨first, _, rfl, .inr ?_⟩
          apply valid.whole
          rw [whole]
          exact List.mem_cons_self

/-- Reads a number that has lost its sign. -/
def readUnsigned (negative : Bool) (chars : List Char) : Option (Numeral × List Char) := do
  let (whole, rest) := spanDigits chars
  if whole = [] ∨ (whole.head? = some '0' ∧ whole ≠ ['0']) then none
  else
    let (fraction, rest) ← readNumeralFraction rest
    let (exponent, rest) ← readNumeralExponent rest
    pure ({ negative, whole, fraction, exponent }, rest)

theorem readNumeral_digit {first : Char} (digit : first.isDigit = true) (chars : List Char) :
    readNumeral (first :: chars) = readUnsigned false (first :: chars) := by
  rw [readNumeral]
  · rfl
  · intro rest minus
    rw [(List.cons.inj minus).1] at digit
    cases digit

theorem readUnsigned_append (valid : numeral.WF)
    (shown : ExponentText numeral.exponent written) (delimited : Delimited rest) :
    readUnsigned numeral.negative (numeral.whole ++ (fractionText numeral.fraction ++
      (written ++ rest))) = some (numeral, rest) := by
  obtain ⟨stops, point⟩ := shown.stops delimited
  have stops' : StopsDigits (fractionText numeral.fraction ++ (written ++ rest)) := by
    by_cases empty : numeral.fraction = []
    · rw [fractionText, if_pos empty]
      exact stops
    · rw [fractionText, if_neg empty]
      rintro _ ⟨⟩
      rfl
  have lead : ¬ (numeral.whole = [] ∨
      (numeral.whole.head? = some '0' ∧ numeral.whole ≠ ['0'])) := by
    rintro (empty | ⟨zero, other⟩)
    · exact valid.some_whole empty
    · exact other (valid.leading zero)
  have fraction := readNumeralFraction_append valid.fraction stops point
  have exponent := shown.readNumeralExponent_append valid.exponent delimited
  rw [readUnsigned, spanDigits_append valid.whole stops']
  simp only [if_neg lead, fraction, exponent, Option.bind_eq_bind, Option.bind_some]
  rfl

/-- A number reads back as it was written. -/
theorem readNumeral_append (valid : numeral.WF) (shown : numeral.WrittenAs chars)
    (delimited : Delimited rest) : readNumeral (chars ++ rest) = some (numeral, rest) := by
  obtain ⟨written, shown, rfl⟩ := shown
  have body := readUnsigned_append valid shown delimited
  rw [List.append_assoc, List.append_assoc, List.append_assoc]
  cases sign : numeral.negative with
  | true =>
      rw [sign] at body
      exact body
  | false =>
      rw [sign] at body
      cases whole : numeral.whole with
      | nil => exact absurd whole valid.some_whole
      | cons first more =>
          have digit : first.isDigit = true := by
            apply valid.whole
            rw [whole]
            exact List.mem_cons_self
          rw [whole] at body
          exact (readNumeral_digit digit _).trans body

end Numeral

end Json

end Rover
