import Rover.Proofs.Checks
import Rover.Proofs.Entry.Range
import Rover.Session

/-!
# Parameters from entries

Three entries are taken for the parameters of a run all together or not at all. What is refused is
told of the first entry that is invalid.
-/

namespace Rover

namespace Parameters

/-! ## Bounds -/

/-- A wait is a finite number from 0 to 180, of which zero can have either sign. -/
def IsWait (wait : Binary64) : Prop :=
  ∃ negative rank, wait = .number negative rank ∧ rank ≠ .infinity ∧
    0 ≤ Binary64.signedUnits negative rank ∧
    Binary64.signedUnits negative rank ≤ 180 * unitsPerOne

theorem le_ofNat_180_iff {rank : Rank} :
    rank ≤ Rank.ofNat 180 ↔ (rank.units : Int) ≤ 180 * unitsPerOne := by
  have greatest : (Rank.ofNat 180).units = 180 * unitsPerOne := Rank.units_ofNat (by decide)
  rw [← Rank.units_le_units, greatest, ← Int.ofNat_le, Int.natCast_mul, Nat.cast_ofNat]

theorem waitInBounds_iff (wait : Binary64) : waitInBounds wait = true ↔ IsWait wait := by
  constructor
  · intro within
    rcases wait_number_cases within with ⟨negative, rfl⟩ | ⟨rank, rfl, -, finite, most⟩
    · refine ⟨negative, .zero, rfl, by decide, ?_⟩
      cases negative <;> exact ⟨by decide, by decide⟩
    · exact ⟨false, rank, rfl, finite, Int.natCast_nonneg _, le_ofNat_180_iff.mp most⟩
  · rintro ⟨negative, rank, rfl, -, least, greatest⟩
    cases negative with
    | false => exact waitInBounds_of_le (le_ofNat_180_iff.mpr greatest)
    | true =>
        change 0 ≤ -(rank.units : Int) at least
        have isZero : rank = .zero := by
          have low : rank.units ≤ Rank.zero.units := by
            change rank.units ≤ 0
            omega
          exact Fin.ext (Nat.le_antisymm (Rank.units_le_units.mp low) (Nat.zero_le _))
        rw [isZero]
        decide

/-- A typed speed and a typed wait are looked at for the same bounds, and nothing else is. -/
theorem ofValues_eq_ok_iff_bounds {speed : Int16} {brightness : UInt8} {wait : Binary64}
    {parameters : Parameters} :
    ofValues speed brightness wait = .ok parameters ↔
      parameters = ⟨speed, brightness, wait⟩ ∧ IsPower speed ∧ IsWait wait := by
  rw [ofValues_eq_ok_iff, WF]
  refine and_congr_right ?_
  rintro rfl
  rw [speedInBounds_iff, waitInBounds_iff]

/-! ## Single entries -/

theorem inRange_speed_iff {raw : String} {speed : Int16} :
    Entry.inRange leastSpeed greatestSpeed raw = .ok speed ↔
      WholeText true (Text.trim raw.toList) speed.toInt ∧ IsPower speed :=
  @Entry.whole_eq_ok_iff .int16 leastSpeed greatestSpeed raw speed

/-- Every brightness that fits its type is within the bounds. -/
theorem inRange_brightness_iff {raw : String} {brightness : UInt8} :
    Entry.inRange (0 : UInt8) 255 raw = .ok brightness ↔
      WholeText false (Text.trim raw.toList) brightness.toNat :=
  @Entry.full_eq_ok_iff .uint8 0 255 raw Width.fits_value brightness

theorem inRange_wait_iff {raw : String} {wait : Binary64} :
    Entry.inRange leastWait greatestWait raw = .ok wait ↔
      Binary64.read (Text.trim raw.toList) = some wait ∧ IsWait wait := by
  rw [← waitInBounds_iff, waitInBounds, Bool.and_eq_true]
  exact Entry.inRange_eq_ok_iff

/-! ## All three entries -/

/-- What is looked at again once the entries were read is within its bounds. -/
theorem ofValues_of_inRange {speed wait : String} {motorSpeed : Int16} {waitSeconds : Binary64}
    (fast : Entry.inRange leastSpeed greatestSpeed speed = .ok motorSpeed)
    (long : Entry.inRange leastWait greatestWait wait = .ok waitSeconds) (ledBrightness : UInt8) :
    ofValues motorSpeed ledBrightness waitSeconds =
      .ok ⟨motorSpeed, ledBrightness, waitSeconds⟩ :=
  ofValues_eq_ok_iff_bounds.mpr
    ⟨rfl, (inRange_speed_iff.mp fast).2, (inRange_wait_iff.mp long).2⟩

/-- Entries are accepted one by one, and together they need no further look. -/
theorem ofEntries_eq_ok_iff {speed brightness wait : String} {parameters : Parameters} :
    ofEntries speed brightness wait = .ok parameters ↔
      Entry.inRange leastSpeed greatestSpeed speed = .ok parameters.motorSpeed ∧
      Entry.inRange (0 : UInt8) 255 brightness = .ok parameters.ledBrightness ∧
      Entry.inRange leastWait greatestWait wait = .ok parameters.waitSeconds := by
  simp only [ofEntries, Except.bind_eq_ok_iff]
  constructor
  · rintro ⟨motorSpeed, fast, ledBrightness, bright, waitSeconds, long, typed⟩
    obtain ⟨rfl, -⟩ := ofValues_eq_ok_iff_bounds.mp typed
    exact ⟨fast, bright, long⟩
  · rintro ⟨fast, bright, long⟩
    exact ⟨_, fast, _, bright, _, long, ofValues_of_inRange fast long _⟩

/-- The entries are texts of the parameters, and these are within their bounds. -/
structure Entered (speed brightness wait : String) (parameters : Parameters) : Prop where
  speed : WholeText true (Text.trim speed.toList) parameters.motorSpeed.toInt
  power : IsPower parameters.motorSpeed
  brightness : WholeText false (Text.trim brightness.toList) parameters.ledBrightness.toNat
  wait : Binary64.read (Text.trim wait.toList) = some parameters.waitSeconds
  duration : IsWait parameters.waitSeconds

theorem ofEntries_eq_ok_iff_entered {speed brightness wait : String} {parameters : Parameters} :
    ofEntries speed brightness wait = .ok parameters ↔
      Entered speed brightness wait parameters := by
  rw [ofEntries_eq_ok_iff, inRange_speed_iff, inRange_brightness_iff, inRange_wait_iff]
  exact ⟨fun ⟨⟨speed, power⟩, brightness, wait, duration⟩ =>
    ⟨speed, power, brightness, wait, duration⟩, fun entered =>
    ⟨⟨entered.speed, entered.power⟩, entered.brightness, entered.wait, entered.duration⟩⟩

/-- Accepted entries give parameters within their bounds. -/
theorem wf_of_ofEntries {speed brightness wait : String} {parameters : Parameters}
    (accepted : ofEntries speed brightness wait = .ok parameters) : parameters.WF := by
  have entered := ofEntries_eq_ok_iff_entered.mp accepted
  exact ⟨(speedInBounds_iff _).mpr entered.power, (waitInBounds_iff _).mpr entered.duration⟩

end Parameters

/-! ## Refusals -/

/-- Why an entry is refused, if it is. -/
def Entry.refusal? {α : Type} [EntryNumber α] (least greatest : α) (raw : String) :
    Option EntryError :=
  match inRange least greatest raw with
  | .ok _ => none
  | .error error => some error

section Refusals

variable {α : Type} [EntryNumber α] {least greatest : α} {raw : String}

theorem Entry.refusal?_eq_some_iff {error : EntryError} :
    refusal? least greatest raw = some error ↔ inRange least greatest raw = .error error := by
  rw [refusal?]
  cases inRange least greatest raw <;> simp

theorem Entry.refusal?_eq_none_iff :
    refusal? least greatest raw = none ↔ ∃ value, inRange least greatest raw = .ok value := by
  rw [refusal?]
  cases inRange least greatest raw <;> simp

end Refusals

namespace Parameters

/-- Why the first of the given entries that is invalid is refused, in the order of speed,
brightness and wait. -/
def firstRefusal? (speed? brightness? wait? : Option String) : Option EntryError :=
  (speed?.bind (Entry.refusal? leastSpeed greatestSpeed)).or <|
    (brightness?.bind (Entry.refusal? (0 : UInt8) 255)).or <|
      wait?.bind (Entry.refusal? leastWait greatestWait)

theorem ofEntries_eq_error_iff {speed brightness wait : String} {error : EntryError} :
    ofEntries speed brightness wait = .error error ↔
      firstRefusal? (some speed) (some brightness) (some wait) = some error := by
  simp only [ofEntries, firstRefusal?, Option.bind_some, Except.bind_eq_error_iff,
    Option.or_eq_some_iff, Entry.refusal?_eq_some_iff, Entry.refusal?_eq_none_iff]
  constructor
  · rintro (refused | ⟨_, fast, refused | ⟨_, bright, refused | ⟨_, long, refused⟩⟩⟩)
    · exact .inl refused
    · exact .inr ⟨⟨_, fast⟩, .inl refused⟩
    · exact .inr ⟨⟨_, fast⟩, .inr ⟨⟨_, bright⟩, refused⟩⟩
    · cases refused.symm.trans (ofValues_of_inRange fast long _)
  · rintro (refused | ⟨⟨_, fast⟩, refused | ⟨⟨_, bright⟩, refused⟩⟩)
    · exact .inl refused
    · exact .inr ⟨_, fast, .inl refused⟩
    · exact .inr ⟨_, fast, .inr ⟨_, bright, .inl refused⟩⟩

end Parameters

/-! ## The parameters of a session -/

namespace Session

open Parameters

variable {ρ τ : Type} {speed brightness wait : String}

theorem enterParameters_of_entered {parameters : Parameters}
    (entered : Entered speed brightness wait parameters) (before : Desk ρ τ) :
    ∃ told : Notice, enterParameters speed brightness wait before =
      .ok () ⟨{ before.session with parameters }, before.world.record (.notice told)⟩ := by
  rw [enterParameters, ofEntries_eq_ok_iff_entered.mpr entered]
  exact ⟨_, rfl⟩

theorem enterParameters_of_refused {refusal : EntryError}
    (refused : firstRefusal? (some speed) (some brightness) (some wait) = some refusal)
    (before : Desk ρ τ) :
    enterParameters speed brightness wait before = .error (.entry refusal) before := by
  rw [enterParameters, ofEntries_eq_error_iff.mpr refused]
  rfl

theorem entered_of_enterParameters {before after : Desk ρ τ}
    (accepted : enterParameters speed brightness wait before = .ok () after) :
    Entered speed brightness wait after.session.parameters := by
  cases read : ofEntries speed brightness wait with
  | error refusal =>
      rw [enterParameters_of_refused (ofEntries_eq_error_iff.mp read)] at accepted
      cases accepted
  | ok parameters =>
      have entered := ofEntries_eq_ok_iff_entered.mp read
      obtain ⟨told, ran⟩ := enterParameters_of_entered entered before
      rw [accepted] at ran
      cases ran
      exact entered

theorem enterParameters_eq_error_iff {before after : Desk ρ τ} {error : Error} :
    enterParameters speed brightness wait before = .error error after ↔
      after = before ∧ ∃ refusal, error = .entry refusal ∧
        firstRefusal? (some speed) (some brightness) (some wait) = some refusal := by
  constructor
  · intro refused
    cases read : ofEntries speed brightness wait with
    | error refusal =>
        have first := ofEntries_eq_error_iff.mp read
        rw [enterParameters_of_refused first] at refused
        cases refused
        exact ⟨rfl, refusal, rfl, first⟩
    | ok parameters =>
        obtain ⟨told, ran⟩ :=
          enterParameters_of_entered (ofEntries_eq_ok_iff_entered.mp read) before
        rw [ran] at refused
        cases refused
  · rintro ⟨rfl, refusal, rfl, first⟩
    exact enterParameters_of_refused first after

/-- Three entries are taken just if they are texts of a whole speed from -255 to 255, of a
brightness, and of a finite wait from 0 to 180, and then these are the parameters and nothing else
of the session is changed. Otherwise the first entry in this order that is no such text is told,
and all is as before. What is looked at again once the entries were read is within its bounds. -/
theorem enterParameters_all_or_nothing (speed brightness wait : String) (before : Desk ρ τ) :
    (∀ parameters, Entered speed brightness wait parameters →
      ∃ told : Notice, enterParameters speed brightness wait before =
        .ok () ⟨{ before.session with parameters }, before.world.record (.notice told)⟩) ∧
    (∀ after, enterParameters speed brightness wait before = .ok () after →
      Entered speed brightness wait after.session.parameters) ∧
    (∀ error after, enterParameters speed brightness wait before = .error error after ↔
      after = before ∧ ∃ refusal, error = .entry refusal ∧
        firstRefusal? (some speed) (some brightness) (some wait) = some refusal) ∧
    ((Entry.refusal? leastSpeed greatestSpeed speed = none ↔ ∃ value : Int16,
        WholeText true (Text.trim speed.toList) value.toInt ∧ IsPower value) ∧
      (Entry.refusal? (0 : UInt8) 255 brightness = none ↔ ∃ value : UInt8,
        WholeText false (Text.trim brightness.toList) value.toNat) ∧
      (Entry.refusal? leastWait greatestWait wait = none ↔ ∃ value,
        Binary64.read (Text.trim wait.toList) = some value ∧ IsWait value)) ∧
    (∀ motorSpeed ledBrightness waitSeconds,
      Entry.inRange leastSpeed greatestSpeed speed = .ok motorSpeed →
      Entry.inRange (0 : UInt8) 255 brightness = .ok ledBrightness →
      Entry.inRange leastWait greatestWait wait = .ok waitSeconds →
      ofValues motorSpeed ledBrightness waitSeconds =
        .ok ⟨motorSpeed, ledBrightness, waitSeconds⟩) ∧
    ∀ motorSpeed ledBrightness waitSeconds parameters,
      ofValues motorSpeed ledBrightness waitSeconds = .ok parameters ↔
        parameters = ⟨motorSpeed, ledBrightness, waitSeconds⟩ ∧
          IsPower motorSpeed ∧ IsWait waitSeconds := by
  refine ⟨fun parameters entered => enterParameters_of_entered entered before,
    fun after => entered_of_enterParameters, fun error after => enterParameters_eq_error_iff,
    ⟨?_, ?_, ?_⟩, ?_, fun _ _ _ _ => ofValues_eq_ok_iff_bounds⟩
  · rw [Entry.refusal?_eq_none_iff]
    exact exists_congr fun _ => inRange_speed_iff
  · rw [Entry.refusal?_eq_none_iff]
    exact exists_congr fun _ => inRange_brightness_iff
  · rw [Entry.refusal?_eq_none_iff]
    exact exists_congr fun _ => inRange_wait_iff
  · intro motorSpeed ledBrightness waitSeconds fast _ long
    exact ofValues_eq_ok_iff_bounds.mpr
      ⟨rfl, (inRange_speed_iff.mp fast).2, (inRange_wait_iff.mp long).2⟩

end Session

end Rover
