import Mathlib.Data.List.Nodup
import Rover.Proofs.Config.Valid
import Rover.Proofs.Decimal.Reread
import Rover.Proofs.Json.Meaning
import Rover.Proofs.Text.Trim

/-!
# Shown values as entries

What is shown of a value can be entered again: it has no blanks, it is read as the same value, and
so it is accepted wherever the value is within the bounds.
-/

namespace Rover

theorem isBlank_of_isDigit {char : Char} (digit : char.isDigit = true) :
    Text.isBlank char = false := by
  have bounds := toNat_of_isDigit digit
  exact Text.isBlank_of_printed (by omega) (by omega)

/-! ## Whole numbers -/

/-- A whole number is shown with its digits, after a minus sign where one is due. -/
theorem toList_toString (value : Int) :
    (toString value).toList = signMark (decide (value < 0)) ++ digits value.natAbs := by
  rw [← Json.Numeral.text_ofInt]
  exact congrArg _ (List.append_nil _)

theorem isBlank_of_mem_toString {value : Int} {char : Char}
    (inside : char ∈ (toString value).toList) : Text.isBlank char = false := by
  rw [toList_toString] at inside
  rcases List.mem_append.mp inside with sign | among
  · rw [signMark] at sign
    split at sign
    next =>
      rw [List.mem_singleton.mp sign]
      rfl
    next => cases sign
  · exact isBlank_of_isDigit (isDigit_of_mem_digits among)

@[simp] theorem readDigits_digits (value : Nat) : readDigits (digits value) = some value := by
  have row : (digits value).all Char.isDigit = true :=
    List.all_eq_true.mpr fun _ among => isDigit_of_mem_digits among
  rw [readDigits, if_pos ⟨digits_ne_nil value, row⟩, ofDigits_digits]

/-- What starts with a digit is read as it stands. -/
theorem readWhole_of_allDigits {row : List Char} (digits : AllDigits row) (signed : Bool) :
    readWhole signed row = (readDigits row).map Int.ofNat := by
  unfold readWhole
  split
  next => exact absurd (digits _ List.mem_cons_self) (by decide)
  next => exact absurd (digits _ List.mem_cons_self) (by decide)
  next => rfl

/-- Digits without a sign are read as such. -/
theorem readWhole_digits (signed : Bool) (value : Nat) :
    readWhole signed (digits value) = some (value : Int) := by
  rw [readWhole_of_allDigits (allDigits_digits value), readDigits_digits]
  rfl

theorem readWhole_toString (value : Int) : readWhole true (toString value).toList = some value := by
  rw [toList_toString]
  by_cases less : value < 0
  · rw [decide_eq_true less]
    change (if true then (readDigits (digits value.natAbs)).map _ else none) = _
    rw [if_pos rfl, readDigits_digits, Option.map_some, Int.ofNat_eq_natCast]
    exact congrArg some (by omega)
  · rw [decide_eq_false less]
    change readWhole true (digits value.natAbs) = _
    rw [readWhole_digits]
    exact congrArg some (by omega)

namespace Entry

/-- What a text without blanks shows is accepted within the bounds. -/
theorem inRange_of_read {α : Type} [EntryNumber α] {least greatest value : α} {raw : String}
    (solid : ∀ char ∈ raw.toList, Text.isBlank char = false)
    (read : EntryNumber.read raw.toList = some value)
    (low : EntryNumber.atMost least value = true)
    (high : EntryNumber.atMost value greatest = true) :
    inRange least greatest raw = .ok value := by
  rw [inRange, (Text.Trimmed.of_solid solid).trim_eq, read]
  simp only [low, high, Bool.and_self, if_true]

/-! ## Choices -/

section Choices

variable {α : Type} {choices : List (String × α)} {raw : String}

/-- Of words that are all different the one that is entered is chosen, in any case of its
letters. -/
theorem choice_eq_ok_iff (distinct : (choices.map Prod.fst).Nodup) {value : α} :
    choice choices raw = .ok value ↔
      ∃ word, (word, value) ∈ choices ∧ (Text.trim raw.toList).map Char.toLower = word.toList := by
  rw [choice]
  cases found : choices.find? fun option =>
      option.1.toList = (Text.trim raw.toList).map Char.toLower with
  | none =>
      refine iff_of_false (by rintro ⟨⟩) ?_
      rintro ⟨word, listed, same⟩
      exact List.find?_eq_none.mp found _ listed (decide_eq_true same.symm)
  | some option =>
      have listed := List.mem_of_find?_eq_some found
      have chosen := List.find?_some found
      have same := of_decide_eq_true chosen
      constructor
      · rintro ⟨⟩
        exact ⟨option.1, listed, same.symm⟩
      · rintro ⟨word, listed', same'⟩
        have words : option.1 = word := String.toList_inj.mp (same.trans same')
        exact congrArg (Except.ok ∘ Prod.snd)
          (List.inj_on_of_nodup_map distinct listed listed' words)

theorem choice_eq_error_iff {error : EntryError} :
    choice choices raw = .error error ↔ error = .unknownChoice ∧
      ∀ option ∈ choices, (Text.trim raw.toList).map Char.toLower ≠ option.1.toList := by
  rw [choice]
  cases found : choices.find? fun option =>
      option.1.toList = (Text.trim raw.toList).map Char.toLower with
  | none =>
      have other := List.find?_eq_none.mp found
      constructor
      · rintro ⟨⟩
        exact ⟨rfl, fun option listed same => other option listed (decide_eq_true same.symm)⟩
      · rintro ⟨rfl, -⟩
        rfl
  | some option =>
      have chosen := List.find?_some found
      refine iff_of_false (by rintro ⟨⟩) ?_
      rintro ⟨-, other⟩
      exact other option (List.mem_of_find?_eq_some found) (of_decide_eq_true chosen).symm

end Choices

end Entry

namespace Parameters

/-! ## Parameters as they are shown -/

theorem inRange_shown_speed {speed : Int16} (within : speedInBounds speed = true) :
    Entry.inRange leastSpeed greatestSpeed (toString speed.toInt) = .ok speed := by
  rw [speedInBounds, Bool.and_eq_true] at within
  refine Entry.inRange_of_read (fun _ => isBlank_of_mem_toString) ?_ within.1 within.2
  have low : -32768 ≤ speed.toInt := speed.le_toInt
  have high : speed.toInt < 32768 := speed.toInt_lt
  change ((readWhole true _).bind _).map _ = _
  rw [readWhole_toString, Option.bind_some, keepWithin, if_pos ⟨low, by omega⟩, Option.map_some,
    Int16.ofInt_toInt]

theorem inRange_shown_brightness (brightness : UInt8) :
    Entry.inRange (0 : UInt8) 255 (toString brightness.toNat) = .ok brightness := by
  have shown : toString brightness.toNat = toString (brightness.toNat : Int) := rfl
  have row : (toString (brightness.toNat : Int)).toList = digits brightness.toNat := by
    rw [toList_toString]
    rfl
  have high : brightness.toNat < 256 := brightness.toNat_lt
  rw [shown]
  refine Entry.inRange_of_read (fun _ => isBlank_of_mem_toString) ?_ ?_ ?_
  · change ((readWhole false _).bind _).map _ = _
    rw [row, readWhole_digits, Option.bind_some, keepWithin, if_pos ⟨by omega, by omega⟩,
      Option.map_some, Int.toNat_natCast, UInt8.ofNat_toNat]
  · exact decide_eq_true (UInt8.zero_le)
  · exact decide_eq_true (UInt8.le_iff_toNat_le.mpr (Nat.le_of_lt_succ high))

theorem inRange_shown_wait {wait : Binary64} (within : waitInBounds wait = true) :
    Entry.inRange leastWait greatestWait wait.text = .ok wait := by
  have finite := isFinite_of_waitInBounds within
  have row : wait.text.toList = wait.write .message := String.toList_ofList
  rw [waitInBounds, Bool.and_eq_true] at within
  refine Entry.inRange_of_read ?_ ?_ within.1 within.2
  · intro char inside
    rw [row] at inside
    rcases Binary64.char_of_mem_write finite inside with digit | rfl | rfl
    · exact isBlank_of_isDigit digit
    · rfl
    · rfl
  · change Binary64.read _ = _
    rw [row, Binary64.read_write_message finite]

end Parameters

end Rover
