import Rover.Monitor.Settings
import Rover.Proofs.Checks
import Rover.Proofs.Entry.Range
import Rover.Proofs.Json.Record

/-!
# Settings of a monitor, written and entered

Settings have two texts: the record of the data format, and the three entries of an operator. Every
direction, threshold and duration comes back from both of them. Of entries that are refused the
first one is told.
-/

namespace Rover

/-! ## Directions -/

namespace ThresholdRange

/-- The words that stand for a direction in an entry. -/
def words : ThresholdRange → List String
  | .minimum => ["minimum", "min"]
  | .maximum => ["maximum", "max"]

/-- The text is a word for the direction, in any case of its letters. -/
def SpelledBy (range : ThresholdRange) (text : List Char) : Prop :=
  ∃ word ∈ range.words, text.map Char.toLower = word.toList

variable {range : ThresholdRange} {raw : String}

theorem mem_entryChoices_iff {word : String} :
    (word, range) ∈ entryChoices ↔ word ∈ range.words := by
  cases range <;> simp [entryChoices, choices, words, name]

theorem ofEntry_eq_ok_iff : ofEntry raw = .ok range ↔ range.SpelledBy (Text.trim raw.toList) := by
  have distinct : (entryChoices.map Prod.fst).Nodup := by decide
  rw [ofEntry, Entry.choice_eq_ok_iff distinct, SpelledBy]
  simp only [mem_entryChoices_iff]

theorem ofEntry_eq_error_iff {error : EntryError} :
    ofEntry raw = .error error ↔ error = .unknownChoice ∧
      ∀ range : ThresholdRange, ¬range.SpelledBy (Text.trim raw.toList) := by
  rw [ofEntry, Entry.choice_eq_error_iff]
  refine and_congr_right fun _ => ?_
  constructor
  · rintro other range ⟨word, listed, same⟩
    exact other (word, range) (mem_entryChoices_iff.mpr listed) same
  · rintro other ⟨word, range⟩ listed same
    exact other range ⟨word, mem_entryChoices_iff.mp listed, same⟩

/-- A word for a direction may stand between any blanks. -/
theorem SpelledBy.trim_padded {front core back : List Char} (spelled : range.SpelledBy core)
    (before : Text.AllBlank front) (after : Text.AllBlank back) :
    range.SpelledBy (Text.trim (front ++ core ++ back)) := by
  have trimmed : ∀ word ∈ range.words, Text.trim word.toList = word.toList := by
    cases range <;> decide
  obtain ⟨word, listed, same⟩ := spelled
  refine ⟨word, listed, ?_⟩
  rw [Text.trim_padded before after, ← Text.trim_map_toLower, same, trimmed word listed]

end ThresholdRange

namespace MonitorSettings

/-! ## Entries -/

variable {settings : MonitorSettings} {range threshold duration : String}

theorem threshold_eq_ok_iff {word : Int32} :
    Entry.inRange Int32.minValue Int32.maxValue threshold = .ok word ↔
      WholeText true (Text.trim threshold.toList) word.toInt :=
  @Entry.full_eq_ok_iff .int32 Int32.minValue Int32.maxValue threshold Width.fits_value word

theorem threshold_eq_error_iff {error : EntryError} :
    Entry.inRange Int32.minValue Int32.maxValue threshold = .error error ↔ error = .notANumber ∧
      ∀ word : Int32, ¬WholeText true (Text.trim threshold.toList) word.toInt :=
  @Entry.full_eq_error_iff .int32 Int32.minValue Int32.maxValue threshold Width.fits_value error

theorem duration_eq_ok_iff {word : UInt32} :
    Entry.inRange (0 : UInt32) 4294967295 duration = .ok word ↔
      WholeText false (Text.trim duration.toList) word.toNat :=
  @Entry.full_eq_ok_iff .uint32 0 4294967295 duration Width.fits_value word

theorem duration_eq_error_iff {error : EntryError} :
    Entry.inRange (0 : UInt32) 4294967295 duration = .error error ↔ error = .notANumber ∧
      ∀ word : UInt32, ¬WholeText false (Text.trim duration.toList) word.toNat :=
  @Entry.full_eq_error_iff .uint32 0 4294967295 duration Width.fits_value error

/-- The entries are texts of the settings. -/
structure Entered (range threshold duration : String) (settings : MonitorSettings) : Prop where
  range : settings.range.SpelledBy (Text.trim range.toList)
  threshold : WholeText true (Text.trim threshold.toList) settings.threshold.toInt
  duration : WholeText false (Text.trim duration.toList) settings.durationSeconds.toNat

theorem ofEntries_eq_ok_iff :
    ofEntries range threshold duration = .ok settings ↔
      Entered range threshold duration settings := by
  simp only [ofEntries, Except.bind_eq_ok_iff, ThresholdRange.ofEntry_eq_ok_iff,
    threshold_eq_ok_iff, duration_eq_ok_iff]
  constructor
  · rintro ⟨direction, spelled, crossing, crosses, seconds, times, ⟨⟩⟩
    exact ⟨spelled, crosses, times⟩
  · rintro ⟨spelled, crosses, times⟩
    exact ⟨_, spelled, _, crosses, _, times, rfl⟩

/-- The digits of the numbers and a word for the direction, between any blanks, are entries. -/
theorem entered_toString {front core back : List Char} (spelled : settings.range.SpelledBy core)
    (before : Text.AllBlank front) (after : Text.AllBlank back)
    (padded : range.toList = front ++ core ++ back) :
    Entered range (toString settings.threshold.toInt) (toString settings.durationSeconds.toNat)
      settings where
  range := by
    rw [padded]
    exact spelled.trim_padded before after
  threshold := by
    rw [(Text.Trimmed.of_solid fun _ => isBlank_of_mem_toString).trim_eq]
    exact @Width.wholeText_toString .int32 settings.threshold
  duration := by
    -- The digits of a natural number are those of the integer that it is.
    change WholeText false (Text.trim (toString (settings.durationSeconds.toNat : Int)).toList) _
    rw [(Text.Trimmed.of_solid fun _ => isBlank_of_mem_toString).trim_eq]
    exact @Width.wholeText_toString .uint32 settings.durationSeconds

/-- The entry of a direction is looked at first, then that of a threshold, and that of a duration
last. -/
theorem ofEntries_eq_error_iff {error : EntryError} :
    let spelled := ∃ direction : ThresholdRange, direction.SpelledBy (Text.trim range.toList)
    let crossed := ∃ word : Int32, WholeText true (Text.trim threshold.toList) word.toInt
    let timed := ∃ word : UInt32, WholeText false (Text.trim duration.toList) word.toNat
    ofEntries range threshold duration = .error error ↔
      (¬spelled ∧ error = .unknownChoice) ∨ (spelled ∧ ¬crossed ∧ error = .notANumber) ∨
        (spelled ∧ crossed ∧ ¬timed ∧ error = .notANumber) := by
  intro spelled crossed timed
  simp only [ofEntries, Except.bind_eq_error_iff, ThresholdRange.ofEntry_eq_ok_iff,
    ThresholdRange.ofEntry_eq_error_iff, threshold_eq_ok_iff, threshold_eq_error_iff,
    duration_eq_ok_iff, duration_eq_error_iff]
  constructor
  · rintro (⟨rfl, unspelled⟩ |
      ⟨_, spells, ⟨rfl, uncrossed⟩ | ⟨_, crosses, ⟨rfl, untimed⟩ | ⟨_, _, ⟨⟩⟩⟩⟩)
    · exact .inl ⟨not_exists.mpr unspelled, rfl⟩
    · exact .inr (.inl ⟨⟨_, spells⟩, not_exists.mpr uncrossed, rfl⟩)
    · exact .inr (.inr ⟨⟨_, spells⟩, ⟨_, crosses⟩, not_exists.mpr untimed, rfl⟩)
  · rintro (⟨unspelled, rfl⟩ | ⟨⟨_, spells⟩, uncrossed, rfl⟩ |
      ⟨⟨_, spells⟩, ⟨_, crosses⟩, untimed, rfl⟩)
    · exact .inl ⟨rfl, not_exists.mp unspelled⟩
    · exact .inr ⟨_, spells, .inl ⟨rfl, not_exists.mp uncrossed⟩⟩
    · exact .inr ⟨_, spells, .inr ⟨_, crosses, .inl ⟨rfl, not_exists.mp untimed⟩⟩⟩

/-! ## The data format -/

open Json

/-- The names of the fields. -/
def fieldNames : List String := ["range", "threshold", "duration_secs"]

/-- The members that settings are written as. -/
def members (settings : MonitorSettings) : List (Option (List Char) × Value) :=
  [(some "range".toList, .string (some settings.range.name.toList)),
   (some "threshold".toList, .number (.ofInt settings.threshold.toInt)),
   (some "duration_secs".toList, .number (.ofInt settings.durationSeconds.toNat))]

/-- The text of settings is one of the object of their members. -/
theorem textOf_dataText (settings : MonitorSettings) :
    TextOf (.object settings.members) settings.dataText.toList := by
  have gap : AllBlank [] := by decide
  have range : Plain "range".toList := by decide
  have threshold : Plain "threshold".toList := by decide
  have duration : Plain "duration_secs".toList := by decide
  have word : Plain settings.range.name.toList := by
    cases settings.range <;> decide
  have direction := Written.string word.placesText
  rw [textOfPlaces_map] at direction
  have crossing := Written.number (Numeral.wf_ofInt settings.threshold.toInt)
    (Numeral.writtenAs_text _)
  have seconds := Written.number (Numeral.wf_ofInt settings.durationSeconds.toNat)
    (Numeral.writtenAs_text _)
  have last := Written.lastMember gap duration.placesText gap gap seconds gap
  have more := Written.member gap threshold.placesText gap gap crossing gap last
  refine ⟨[], _, [], gap, .object (.member gap range.placesText gap gap direction gap more), gap,
    ?_⟩
  have digits : (Numeral.ofInt settings.durationSeconds.toNat).text =
      (toString settings.durationSeconds.toNat).toList := Numeral.text_ofInt _
  rw [Numeral.text_ofInt, digits]
  simp [dataText, compact, quoted, nameText]

/-- The members are found by their names, in whatever order they stand among members of other
names. -/
theorem decoder_of_perm {members others : List (Option (List Char) × Value)}
    (order : members.Perm (settings.members ++ others))
    (unknown : ∀ member ∈ others, ∃ name, member.1 = some name ∧
      name ∉ fieldNames.map String.toList) :
    decoder (.object members) = some settings := by
  have absent : ∀ name ∈ fieldNames, ∀ member ∈ others, member.1 ≠ some name.toList := by
    intro name listed member inside same
    obtain ⟨other, shown, free⟩ := unknown member inside
    rw [shown] at same
    exact free (Option.some.inj same ▸ List.mem_map_of_mem listed)
  have named : members.all (·.1.isSome) = true := by
    rw [List.all_eq_true]
    intro member inside
    rcases List.mem_append.mp (order.mem_iff.mp inside) with known | further
    · simp only [MonitorSettings.members, List.mem_cons, List.not_mem_nil, or_false] at known
      rcases known with rfl | rfl | rfl <;> rfl
    · obtain ⟨name, shown, -⟩ := unknown member further
      rw [shown]
      rfl
  have range : member (.choice ThresholdRange.choices) none "range" members =
      some settings.range := by
    rw [member_of_perm _ _ order rfl (absent "range" (by decide))]
    cases settings.range <;> rfl
  have threshold : member .int32 none "threshold" members = some settings.threshold := by
    rw [member_of_perm _ _ order rfl (absent "threshold" (by decide))]
    exact Decoder.int32_eq_some_iff.mpr (Numeral.isInt_ofInt _)
  have duration : member .uint32 none "duration_secs" members =
      some settings.durationSeconds := by
    rw [member_of_perm _ _ order rfl (absent "duration_secs" (by decide))]
    exact Decoder.uint32_eq_some_iff.mpr (Numeral.isInt_ofInt _)
  rw [decoder, form?, named]
  simp only [if_true, Option.bind_eq_bind, Option.bind_some, Form.field, range, threshold, duration,
    Option.pure_def]

/-- Settings are decoded from their own text, and from every text of an object of their members in
any order with any members of other names. They are entered by their digits and any word for their
direction, in any case of its letters and between any blanks. Entries are accepted just if they are
texts of settings, and otherwise they are refused for the first that is none: for that of the
direction as an unknown choice, and for the others as no number, since no threshold and no duration
is out of the range. -/
theorem settings_come_back (settings : MonitorSettings) :
    (decode? decoder settings.dataText = some settings ∧
      ∀ (text : String) (members others : List (Option (List Char) × Value)),
        TextOf (.object members) text.toList → members.Perm (settings.members ++ others) →
        (∀ member ∈ others, ∃ name, member.1 = some name ∧
          name ∉ fieldNames.map String.toList) →
        decode? decoder text = some settings) ∧
    (∀ (raw : String) (front core back : List Char), settings.range.SpelledBy core →
      Text.AllBlank front → Text.AllBlank back → raw.toList = front ++ core ++ back →
      ofEntries raw (toString settings.threshold.toInt)
        (toString settings.durationSeconds.toNat) = .ok settings) ∧
    ∀ range threshold duration : String,
      let spelled := ∃ direction : ThresholdRange, direction.SpelledBy (Text.trim range.toList)
      let crossed := ∃ word : Int32, WholeText true (Text.trim threshold.toList) word.toInt
      let timed := ∃ word : UInt32, WholeText false (Text.trim duration.toList) word.toNat
      let outcome := ofEntries range threshold duration
      (outcome = .ok settings ↔ Entered range threshold duration settings) ∧
      ((∃ accepted, outcome = .ok accepted) ↔ spelled ∧ crossed ∧ timed) ∧
      (∀ error, outcome = .error error ↔
        (¬spelled ∧ error = .unknownChoice) ∨ (spelled ∧ ¬crossed ∧ error = .notANumber) ∨
          (spelled ∧ crossed ∧ ¬timed ∧ error = .notANumber)) ∧
      ∀ least greatest, outcome ≠ .error (.outOfRange least greatest) := by
  have decodes (text : String) (members others : List (Option (List Char) × Value))
      (object : TextOf (.object members) text.toList)
      (order : members.Perm (settings.members ++ others))
      (unknown : ∀ member ∈ others, ∃ name, member.1 = some name ∧
        name ∉ fieldNames.map String.toList) : decode? decoder text = some settings := by
    rw [decode?, read?_eq_some object, Option.bind_some, decoder_of_perm order unknown]
  refine ⟨⟨?_, decodes⟩, ?_, ?_⟩
  · apply decodes _ _ [] settings.textOf_dataText
    · rw [List.append_nil]
    · rintro _ ⟨⟩
  · intro raw front core back spelled before after padded
    exact ofEntries_eq_ok_iff.mpr (entered_toString spelled before after padded)
  · intro range threshold duration spelled crossed timed outcome
    refine ⟨ofEntries_eq_ok_iff, ?_, fun error => ofEntries_eq_error_iff, ?_⟩
    · constructor
      · rintro ⟨accepted, entered⟩
        obtain ⟨direction, crossing, seconds⟩ := ofEntries_eq_ok_iff.mp entered
        exact ⟨⟨_, direction⟩, ⟨_, crossing⟩, ⟨_, seconds⟩⟩
      · rintro ⟨⟨direction, spells⟩, ⟨crossing, crosses⟩, ⟨seconds, times⟩⟩
        exact ⟨⟨direction, crossing, seconds⟩, ofEntries_eq_ok_iff.mpr ⟨spells, crosses, times⟩⟩
    · intro least greatest refused
      rcases ofEntries_eq_error_iff.mp refused with ⟨-, ⟨⟩⟩ | ⟨-, -, ⟨⟩⟩ | ⟨-, -, -, ⟨⟩⟩

/-- The lowest threshold and the longest duration. -/
def extreme : MonitorSettings := ⟨.maximum, -2147483648, 4294967295⟩

/-- A member of another name. -/
def noted : List (Option (List Char) × Value) := [(some "note".toList, .array [.null])]

theorem textOf_extreme :
    TextOf (.object ((extreme.members.drop 2 ++ noted) ++ extreme.members.take 2))
      ("\x7b\"duration_secs\": 4294967295, \"note\":[null],\n" ++
        " \"range\":\"maximum\", \"threshold\":-2147483648 \x7d").toList := by
  have gap : AllBlank [] := by decide
  have blank : AllBlank [' '] := by decide
  have line : AllBlank ['\n', ' '] := by decide
  have range : Plain "range".toList := by decide
  have threshold : Plain "threshold".toList := by decide
  have duration : Plain "duration_secs".toList := by decide
  have note : Plain "note".toList := by decide
  have maximum : Plain "maximum".toList := by decide
  have lowest := Written.lastMember blank threshold.placesText gap gap
    (.number (Numeral.wf_ofInt (-2147483648)) (Numeral.writtenAs_text _)) blank
  have upward :=
    Written.member line range.placesText gap gap (.string maximum.placesText) gap lowest
  have other := Written.member blank note.placesText gap gap
    (.array (.lastElement gap .null gap)) gap upward
  refine ⟨[], _, [], gap, .object (.member gap duration.placesText gap blank
    (.number (Numeral.wf_ofInt 4294967295) (Numeral.writtenAs_text _)) gap other), gap, ?_⟩
  decide +kernel

/-- The last field stands first, another name after it, and the word for the direction is entered in
letters of both cases between blanks. -/
theorem settings_come_back_extreme :
    decode? decoder ("\x7b\"duration_secs\": 4294967295, \"note\":[null],\n" ++
        " \"range\":\"maximum\", \"threshold\":-2147483648 \x7d") = some extreme ∧
      ofEntries " MaX\t" "-2147483648" "4294967295" = .ok extreme := by
  obtain ⟨⟨-, decodes⟩, enters, -⟩ := settings_come_back extreme
  have other : ∀ member ∈ noted, ∃ name, member.1 = some name ∧
      name ∉ fieldNames.map String.toList := by
    intro member inside
    rw [List.mem_singleton.mp inside]
    exact ⟨"note".toList, rfl, by decide⟩
  have lowest : toString extreme.threshold.toInt = "-2147483648" := by decide +kernel
  have longest : toString extreme.durationSeconds.toNat = "4294967295" := by decide +kernel
  have entered := enters " MaX\t" [' '] "MaX".toList ['\t'] ⟨"max", by decide, by decide⟩
    (List.forall_mem_singleton.mpr rfl) (List.forall_mem_singleton.mpr rfl) (by decide)
  rw [lowest, longest] at entered
  exact ⟨decodes _ _ noted textOf_extreme List.perm_append_comm other, entered⟩

end MonitorSettings

end Rover
