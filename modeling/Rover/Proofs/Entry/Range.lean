import Rover.Proofs.Entry.Grammar

/-!
# Entries in a range

An entry is accepted just if it is the text of a number between the bounds. One that is no such
text, or whose number does not fit its type, is not a number, and any other one is out of the range.
This holds of the four widths of whole numbers alike, and of numbers with a fraction by their own
order.
-/

namespace Rover

/-! ## Widths of whole numbers -/

/-- The widths of the whole numbers that can be entered. -/
inductive Width where
  | int16
  | uint8
  | int32
  | uint32

namespace Width

/-- The numbers of a width. -/
abbrev Word : Width → Type
  | .int16 => Int16
  | .uint8 => UInt8
  | .int32 => Int32
  | .uint32 => UInt32

instance (width : Width) : EntryNumber width.Word :=
  match width with
  | .int16 => inferInstanceAs (EntryNumber Int16)
  | .uint8 => inferInstanceAs (EntryNumber UInt8)
  | .int32 => inferInstanceAs (EntryNumber Int32)
  | .uint32 => inferInstanceAs (EntryNumber UInt32)

/-- Whether the width has numbers below zero. -/
def signed : Width → Bool
  | .int16 | .int32 => true
  | .uint8 | .uint32 => false

/-- The lowest number of a width. -/
def lowest : Width → Int
  | .int16 => -32768
  | .int32 => -2147483648
  | .uint8 | .uint32 => 0

/-- The highest number of a width. -/
def highest : Width → Int
  | .int16 => 32767
  | .uint8 => 255
  | .int32 => 2147483647
  | .uint32 => 4294967295

/-- Whether a number is one of the width. -/
def Fits (width : Width) (value : Int) : Prop := width.lowest ≤ value ∧ value ≤ width.highest

/-- What a word stands for. -/
def value : (width : Width) → width.Word → Int
  | .int16, word => Int16.toInt word
  | .uint8, word => (UInt8.toNat word : Nat)
  | .int32, word => Int32.toInt word
  | .uint32, word => (UInt32.toNat word : Nat)

/-- The word that stands for a number, if this fits. -/
def word : (width : Width) → Int → width.Word
  | .int16, value => Int16.ofInt value
  | .uint8, value => UInt8.ofNat value.toNat
  | .int32, value => Int32.ofInt value
  | .uint32, value => UInt32.ofNat value.toNat

variable {width : Width} {value : Int}

theorem fits_value (word : width.Word) : width.Fits (width.value word) := by
  cases width with
  | int16 => exact ⟨Int16.le_toInt word, Int.le_of_lt_add_one (Int16.toInt_lt word)⟩
  | uint8 =>
      exact ⟨Int.natCast_nonneg _, Int.ofNat_le.mpr (Nat.le_of_lt_succ (UInt8.toNat_lt word))⟩
  | int32 => exact ⟨Int32.le_toInt word, Int.le_of_lt_add_one (Int32.toInt_lt word)⟩
  | uint32 =>
      exact ⟨Int.natCast_nonneg _, Int.ofNat_le.mpr (Nat.le_of_lt_succ (UInt32.toNat_lt word))⟩

theorem word_value (word : width.Word) : width.word (width.value word) = word := by
  cases width with
  | int16 => exact Int16.ofInt_toInt word
  | uint8 => exact UInt8.ofNat_toNat
  | int32 => exact Int32.ofInt_toInt word
  | uint32 => exact UInt32.ofNat_toNat

theorem value_word (fits : width.Fits value) : width.value (width.word value) = value := by
  obtain ⟨low, high⟩ := fits
  cases width with
  | int16 => exact Int16.toInt_ofInt_of_le low (Int.lt_add_one_of_le high)
  | uint8 =>
      change 0 ≤ value at low
      change value ≤ 255 at high
      change ((UInt8.ofNat value.toNat).toNat : Int) = value
      rw [UInt8.toNat_ofNat_of_lt' (by change _ < 256; omega), Int.toNat_of_nonneg low]
  | int32 => exact Int32.toInt_ofInt_of_le low (Int.lt_add_one_of_le high)
  | uint32 =>
      change 0 ≤ value at low
      change value ≤ 4294967295 at high
      change ((UInt32.ofNat value.toNat).toNat : Int) = value
      rw [UInt32.toNat_ofNat_of_lt' (by change _ < 4294967296; omega), Int.toNat_of_nonneg low]

/-! How the words of a width are read, compared and shown. -/

theorem read_eq (width : Width) (chars : List Char) :
    (EntryNumber.read chars : Option width.Word) =
      ((readWhole width.signed chars).bind (keepWithin width.lowest width.highest)).map
        width.word := by
  cases width <;> rfl

theorem atMost_iff {left right : width.Word} :
    EntryNumber.atMost left right = true ↔ width.value left ≤ width.value right := by
  cases width with
  | int16 => exact decide_eq_true_iff.trans Int16.le_iff_toInt_le
  | uint8 => exact decide_eq_true_iff.trans (UInt8.le_iff_toNat_le.trans Int.ofNat_le.symm)
  | int32 => exact decide_eq_true_iff.trans Int32.le_iff_toInt_le
  | uint32 => exact decide_eq_true_iff.trans (UInt32.le_iff_toNat_le.trans Int.ofNat_le.symm)

theorem shown_eq (word : width.Word) : EntryNumber.shown word = .ofInt (width.value word) := by
  cases width with
  | int16 | int32 => rfl
  | uint8 | uint32 => exact congrArg (Binary64.ofRatio · _ 1) rfl

/-- Reading gives the number of the text, provided that it fits. -/
theorem read_eq_some_iff {chars : List Char} {word : width.Word} :
    EntryNumber.read chars = some word ↔ WholeText width.signed chars (width.value word) := by
  simp only [read_eq, Option.map_eq_some_iff, Option.bind_eq_some_iff, keepWithin,
    readWhole_eq_some_iff]
  constructor
  · rintro ⟨value, ⟨value', text, kept⟩, rfl⟩
    split at kept
    next fits =>
      rw [← Option.some.inj kept, value_word fits]
      exact text
    next => cases kept
  · intro text
    exact ⟨_, ⟨_, text, if_pos (fits_value word)⟩, word_value word⟩

/-- Nothing is read just if the text is that of no number, or of one that does not fit. -/
theorem read_eq_none_iff {chars : List Char} :
    (EntryNumber.read chars : Option width.Word) = none ↔
      ∀ value, WholeText width.signed chars value → ¬width.Fits value := by
  rw [Option.eq_none_iff_forall_ne_some]
  constructor
  · intro unread value text fits
    rw [← value_word fits] at text
    exact unread _ (read_eq_some_iff.mpr text)
  · intro unfit word read
    exact unfit _ (read_eq_some_iff.mp read) (fits_value word)

end Width

namespace Binary64

/-- The value is exactly the given integer. -/
def Is (value : Binary64) (number : Int) : Prop :=
  ∃ negative rank, value = .number negative rank ∧
    signedUnits negative rank = number * unitsPerOne

theorem is_number_iff {negative : Bool} {rank : Rank} {value : Int} :
    (number negative rank).Is value ↔ signedUnits negative rank = value * unitsPerOne := by
  constructor
  · rintro ⟨_, _, ⟨⟩, units⟩
    exact units
  · intro units
    exact ⟨negative, rank, rfl, units⟩

/-- Whole numbers of up to 53 binary digits are not rounded, whichever sign they have. -/
theorem is_ofRatio (negative : Bool) {whole : Nat} (fits : whole ≤ 2 * binadeSize) :
    (ofRatio negative whole 1).Is (if negative then -(whole : Int) else whole) := by
  refine ⟨negative, Rank.ofNat whole, rfl, ?_⟩
  rw [signedUnits, Rank.units_ofNat fits, Int.natCast_mul, ite_mul, Int.neg_mul]

theorem is_ofInt {number : Int} (fits : number.natAbs ≤ 2 * binadeSize) :
    (ofInt number).Is number := by
  have whole := is_ofRatio (decide (number < 0)) fits
  have signed : (if decide (number < 0) then -(number.natAbs : Int) else number.natAbs) =
      number := by
    by_cases less : number < 0
    · rw [decide_eq_true less, if_pos rfl]
      omega
    · rw [decide_eq_false less, if_neg Bool.false_ne_true]
      omega
  rwa [signed] at whole

end Binary64

/-- A bound is shown as exactly what it is. -/
theorem Width.is_shown {width : Width} (word : width.Word) :
    (EntryNumber.shown word).Is (width.value word) := by
  rw [shown_eq]
  apply Binary64.is_ofInt
  have binades : 2 * binadeSize = 9007199254740992 := rfl
  obtain ⟨low, high⟩ := fits_value word
  cases width <;> simp only [lowest, highest] at low high <;> omega

/-! ## Outcomes of an entry -/

namespace Entry

section Outcomes

variable {α : Type} [EntryNumber α] {least greatest value : α} {raw : String}

theorem inRange_eq_ok_iff :
    inRange least greatest raw = .ok value ↔
      EntryNumber.read (Text.trim raw.toList) = some value ∧
        EntryNumber.atMost least value = true ∧ EntryNumber.atMost value greatest = true := by
  rw [inRange]
  cases (EntryNumber.read (Text.trim raw.toList) : Option α) with
  | none => simp
  | some number =>
      simp only [Option.some.injEq, ← Bool.and_eq_true]
      split
      next within =>
        rw [Except.ok.injEq]
        exact (and_iff_left_of_imp fun same => same ▸ within).symm
      next outside =>
        refine iff_of_false (by simp) ?_
        rintro ⟨rfl, within⟩
        exact outside within

theorem inRange_eq_notANumber_iff :
    inRange least greatest raw = .error .notANumber ↔
      (EntryNumber.read (Text.trim raw.toList) : Option α) = none := by
  rw [inRange]
  cases (EntryNumber.read (Text.trim raw.toList) : Option α) with
  | none => simp
  | some number =>
      dsimp only
      split <;> simp

theorem inRange_eq_outOfRange_iff :
    inRange least greatest raw =
        .error (.outOfRange (EntryNumber.shown least) (EntryNumber.shown greatest)) ↔
      ∃ value, EntryNumber.read (Text.trim raw.toList) = some value ∧
        ¬(EntryNumber.atMost least value = true ∧ EntryNumber.atMost value greatest = true) := by
  rw [inRange]
  cases (EntryNumber.read (Text.trim raw.toList) : Option α) with
  | none => simp
  | some number =>
      simp only [Option.some.injEq, exists_eq_left', ← Bool.and_eq_true]
      split
      next within => simp [within]
      next outside => simp [outside]

end Outcomes

end Entry

/-! ## Written numbers -/

theorem digitRow_digits (value : Nat) : DigitRow (digits value) value :=
  readDigits_eq_some_iff.mp (readDigits_digits value)

/-- A word is a text of what it stands for. -/
theorem Width.wholeText_toString {width : Width} (word : width.Word) :
    WholeText width.signed (toString (width.value word)).toList (width.value word) := by
  rw [toList_toString]
  by_cases less : width.value word < 0
  · have below : width.signed = true := by
      have low := (fits_value word).1
      cases width with
      | int16 | int32 => rfl
      | uint8 | uint32 => exact absurd low (Int.not_le.mpr less)
    have magnitude : width.value word = -((width.value word).natAbs : Int) := by omega
    rw [decide_eq_true less, magnitude, Int.natAbs_neg, Int.natAbs_natCast]
    exact .minus below (digitRow_digits _)
  · have magnitude : width.value word = ((width.value word).natAbs : Int) := by omega
    rw [decide_eq_false less, magnitude, Int.natAbs_natCast]
    exact .bare (digitRow_digits _)

/-- A minus sign makes no text of an unsigned number. -/
theorem WholeText.ne_minus {rest : List Char} {value : Int} :
    ¬WholeText false ('-' :: rest) value := by
  intro text
  cases text with
  | bare row => exact absurd (row.allDigits _ List.mem_cons_self) (by decide)
  | minus below => cases below

namespace Entry

/-! ## Entries of whole numbers -/

section Whole

variable {width : Width} {least greatest : width.Word} {raw : String}

theorem whole_eq_ok_iff {word : width.Word} :
    inRange least greatest raw = .ok word ↔
      WholeText width.signed (Text.trim raw.toList) (width.value word) ∧
        (width.value least ≤ width.value word ∧ width.value word ≤ width.value greatest) := by
  rw [← Width.read_eq_some_iff, ← Width.atMost_iff, ← Width.atMost_iff]
  exact inRange_eq_ok_iff

theorem whole_eq_notANumber_iff :
    inRange least greatest raw = .error .notANumber ↔
      ∀ value, WholeText width.signed (Text.trim raw.toList) value → ¬width.Fits value :=
  inRange_eq_notANumber_iff.trans Width.read_eq_none_iff

theorem whole_eq_outOfRange_iff :
    inRange least greatest raw =
        .error (.outOfRange (EntryNumber.shown least) (EntryNumber.shown greatest)) ↔
      ∃ value, WholeText width.signed (Text.trim raw.toList) value ∧ width.Fits value ∧
        ¬(width.value least ≤ value ∧ value ≤ width.value greatest) := by
  refine inRange_eq_outOfRange_iff.trans ?_
  simp only [Width.atMost_iff, Width.read_eq_some_iff]
  constructor
  · rintro ⟨word, written, outside⟩
    exact ⟨_, written, Width.fits_value word, outside⟩
  · rintro ⟨value, written, fits, outside⟩
    refine ⟨width.word value, ?_⟩
    rw [Width.value_word fits]
    exact ⟨written, outside⟩

/-- Where the bounds are those of the width, only the text counts. -/
theorem full_eq_ok_iff
    (full : ∀ word, width.value least ≤ width.value word ∧ width.value word ≤ width.value greatest)
    {word : width.Word} :
    inRange least greatest raw = .ok word ↔
      WholeText width.signed (Text.trim raw.toList) (width.value word) :=
  whole_eq_ok_iff.trans (and_iff_left (full word))

/-- Nothing is out of the bounds of the width. -/
theorem full_eq_error_iff
    (full : ∀ word, width.value least ≤ width.value word ∧ width.value word ≤ width.value greatest)
    {error : EntryError} :
    inRange least greatest raw = .error error ↔ error = .notANumber ∧
      ∀ word, ¬WholeText width.signed (Text.trim raw.toList) (width.value word) := by
  simp only [← Width.read_eq_some_iff, ← Option.eq_none_iff_forall_ne_some]
  rw [inRange]
  cases read : (EntryNumber.read (Text.trim raw.toList) : Option width.Word) with
  | none => simp [eq_comm]
  | some word =>
      have within : (EntryNumber.atMost least word && EntryNumber.atMost word greatest) = true := by
        rw [Bool.and_eq_true, Width.atMost_iff, Width.atMost_iff]
        exact full word
      simp [within]

/-- A number between the bounds is accepted by its digits, with any blanks around them. -/
theorem whole_of_padded {word : width.Word} {front back : List Char}
    (inside : width.value least ≤ width.value word ∧ width.value word ≤ width.value greatest)
    (before : Text.AllBlank front) (after : Text.AllBlank back)
    (padded : raw.toList = front ++ (toString (width.value word)).toList ++ back) :
    inRange least greatest raw = .ok word := by
  have core : Text.trim raw.toList = (toString (width.value word)).toList := by
    rw [padded]
    exact Text.trim_append before (.of_solid fun _ => isBlank_of_mem_toString) after
  rw [whole_eq_ok_iff, core]
  exact ⟨Width.wholeText_toString word, inside⟩

end Whole

/-! ## Entries of numbers with a fraction -/

section Fraction

variable {least greatest : Binary64} {raw : String}

/-- The value that is no number is below no bound. -/
theorem fraction_ne_nan {value : Binary64} (accepted : inRange least greatest raw = .ok value) :
    value ≠ .nan := by
  rintro rfl
  exact Binary64.not_le_nan least (inRange_eq_ok_iff.mp accepted).2.1

theorem fraction_eq_notANumber_iff :
    inRange least greatest raw = .error .notANumber ↔ ¬FractionText (Text.trim raw.toList) := by
  rw [← Binary64.read_isSome_iff, Option.not_isSome_iff_eq_none]
  exact inRange_eq_notANumber_iff

/-- A text of a number is accepted, or it is out of the range. -/
theorem fraction_cases (written : FractionText (Text.trim raw.toList)) :
    (∃ value, inRange least greatest raw = .ok value) ∨
      inRange least greatest raw = .error (.outOfRange least greatest) := by
  obtain ⟨value, read⟩ := Option.isSome_iff_exists.mp (Binary64.read_isSome_iff.mpr written)
  by_cases within : least ≤ value ∧ value ≤ greatest
  · exact .inl ⟨value, inRange_eq_ok_iff.mpr ⟨read, within⟩⟩
  · exact .inr (inRange_eq_outOfRange_iff.mpr ⟨value, read, within⟩)

end Fraction

/-! ## All entries -/

/-- An entry of a whole number is accepted just if it is a text of a number between the bounds,
whatever stands around it of blanks and leading zeros. It is not a number just if it is no such text
or its number does not fit the width, and it is out of the range, which is shown exactly, just if
the number fits the width and not the bounds. So each number between the bounds can be entered by
its digits, and a minus sign is refused where no number is below zero, even for zero. A number with
a fraction is accepted just if it is read and between the bounds. It is never the value that is no
number, and a text of a number is never refused as none. -/
theorem inRange_accepts_numerals :
    (∀ (width : Width) (least greatest : width.Word) (raw : String),
      let entry := inRange least greatest raw
      let text := Text.trim raw.toList
      let within := fun value : Int => width.value least ≤ value ∧ value ≤ width.value greatest
      (∀ word, entry = .ok word ↔
        WholeText width.signed text (width.value word) ∧ within (width.value word)) ∧
      (entry = .error .notANumber ↔
        ∀ value, WholeText width.signed text value → ¬width.Fits value) ∧
      (entry = .error (.outOfRange (EntryNumber.shown least) (EntryNumber.shown greatest)) ↔
        ∃ value, WholeText width.signed text value ∧ width.Fits value ∧ ¬within value) ∧
      ((EntryNumber.shown least).Is (width.value least) ∧
        (EntryNumber.shown greatest).Is (width.value greatest)) ∧
      (∀ word front back, within (width.value word) → Text.AllBlank front → Text.AllBlank back →
        raw.toList = front ++ (toString (width.value word)).toList ++ back → entry = .ok word) ∧
      (width.signed = false → text = ['-', '0'] → entry = .error .notANumber)) ∧
    ∀ (least greatest : Binary64) (raw : String),
      let entry := inRange least greatest raw
      let text := Text.trim raw.toList
      (∀ value, entry = .ok value ↔
        Binary64.read text = some value ∧ least ≤ value ∧ value ≤ greatest) ∧
      (∀ value, entry = .ok value → value ≠ .nan) ∧
      (entry = .error .notANumber ↔ ¬FractionText text) ∧
      (FractionText text →
        (∃ value, entry = .ok value) ∨ entry = .error (.outOfRange least greatest)) := by
  constructor
  · intro width least greatest raw entry text within
    refine ⟨fun word => whole_eq_ok_iff, whole_eq_notANumber_iff, whole_eq_outOfRange_iff,
      ⟨Width.is_shown least, Width.is_shown greatest⟩, ?_, ?_⟩
    · exact fun word front back inside before after => whole_of_padded inside before after
    · intro unsigned minus
      change inRange least greatest raw = _
      rw [whole_eq_notANumber_iff, unsigned]
      change ∀ value, WholeText false text value → _
      rw [minus]
      exact fun value written => absurd written WholeText.ne_minus
  · intro least greatest raw entry text
    exact ⟨fun value => inRange_eq_ok_iff, fun value => fraction_ne_nan, fraction_eq_notANumber_iff,
      fraction_cases⟩

end Entry

end Rover
