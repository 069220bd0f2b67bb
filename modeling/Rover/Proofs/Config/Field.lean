import Rover.Config.Data
import Rover.Proofs.Json.Meaning

/-!
# The fields of a configuration

A configuration is decoded field by field, and each field has its name, its type and its decoder.
What a number stands for as the value of a field is stated apart from the decoder.
-/

namespace Rover.Config

open Json

/-- The fields of a configuration. -/
inductive Field where
  | motorSpeed
  | ledBrightness
  | waitSeconds
  | alarmHertz
  | alarmMillis
  | ledStepMillis
  | danceStepMillis
  | connectAttempts
  | feedbackMillis
  deriving DecidableEq

namespace Field

/-- The type of a field. -/
abbrev Value : Field → Type
  | motorSpeed => Int16
  | ledBrightness | connectAttempts => UInt8
  | waitSeconds => Binary64
  | alarmHertz | alarmMillis | ledStepMillis | danceStepMillis | feedbackMillis => UInt32

/-- The name of a field in the data format. -/
def name : Field → String
  | motorSpeed => "default_motor_speed"
  | ledBrightness => "default_led_brightness"
  | waitSeconds => "default_wait_secs"
  | alarmHertz => "alarm_frequency_hz"
  | alarmMillis => "alarm_duration_ms"
  | ledStepMillis => "led_step_ms"
  | danceStepMillis => "dance_step_ms"
  | connectAttempts => "connect_attempts"
  | feedbackMillis => "connect_feedback_ms"

/-- The value of a field in a configuration. -/
def get (config : Config) : (field : Field) → field.Value
  | motorSpeed => config.motorSpeed
  | ledBrightness => config.ledBrightness
  | waitSeconds => config.waitSeconds
  | alarmHertz => config.alarmHertz
  | alarmMillis => config.alarmMillis
  | ledStepMillis => config.ledStepMillis
  | danceStepMillis => config.danceStepMillis
  | connectAttempts => config.connectAttempts
  | feedbackMillis => config.feedbackMillis

/-- What a number stands for as the value of a field: a whole number of its word, or what the reader
makes of the digits of a wait. -/
def Means : (field : Field) → Numeral → field.Value → Prop
  | motorSpeed, numeral, value => numeral.IsInt (Int16.toInt value)
  | ledBrightness, numeral, value | connectAttempts, numeral, value =>
    numeral.IsInt (UInt8.toNat value)
  | waitSeconds, numeral, value => numeral.toBinary64? = some value
  | alarmHertz, numeral, value | alarmMillis, numeral, value | ledStepMillis, numeral, value
  | danceStepMillis, numeral, value | feedbackMillis, numeral, value =>
    numeral.IsInt (UInt32.toNat value)

/-- The decoder of a field. -/
def decoder : (field : Field) → Decoder field.Value
  | motorSpeed => .int16
  | ledBrightness | connectAttempts => .uint8
  | waitSeconds => .binary64
  | alarmHertz | alarmMillis | ledStepMillis | danceStepMillis | feedbackMillis => .uint32

theorem decoder_eq_some_iff {field : Field} {numeral : Numeral} {value : field.Value} :
    field.decoder (.number numeral) = some value ↔ field.Means numeral value := by
  cases field with
  | motorSpeed => exact Decoder.int16_eq_some_iff
  | ledBrightness | connectAttempts => exact Decoder.uint8_eq_some_iff
  | waitSeconds => exact Iff.rfl
  | alarmHertz | alarmMillis | ledStepMillis | danceStepMillis | feedbackMillis =>
      exact Decoder.uint32_eq_some_iff

end Field

/-- The members of an object. -/
abbrev Members := List (Option (List Char) × Json.Value)

/-- The value of a field that is read over a configuration. -/
def Field.read (base : Config) (members : Members) (field : Field) : Option field.Value :=
  member field.decoder (some (field.get base)) field.name members

/-- A configuration is read as its fields are, one by one. -/
theorem overlay_object_eq_some_iff {base config : Config} {members : Members} :
    overlay base (.object members) = some config ↔
      (∀ member ∈ members, member.1.isSome = true) ∧
        ∀ field : Field, field.read base members = some (field.get config) := by
  rw [overlay, form?, ← List.all_eq_true]
  cases named : members.all (·.1.isSome) with
  | false => simp
  | true =>
      simp only [if_true, Option.bind_eq_bind, Option.bind_some, Option.bind_eq_some_iff, true_and,
        Option.pure_def, Option.some.injEq]
      constructor
      · rintro ⟨speed, hasSpeed, brightness, hasBrightness, wait, hasWait, hertz, hasHertz, millis,
          hasMillis, led, hasLed, dance, hasDance, attempts, hasAttempts, feedback, hasFeedback,
          rfl⟩
        intro field
        cases field with
        | motorSpeed => exact hasSpeed
        | ledBrightness => exact hasBrightness
        | waitSeconds => exact hasWait
        | alarmHertz => exact hasHertz
        | alarmMillis => exact hasMillis
        | ledStepMillis => exact hasLed
        | danceStepMillis => exact hasDance
        | connectAttempts => exact hasAttempts
        | feedbackMillis => exact hasFeedback
      · intro each
        exact ⟨_, each .motorSpeed, _, each .ledBrightness, _, each .waitSeconds, _,
          each .alarmHertz, _, each .alarmMillis, _, each .ledStepMillis, _, each .danceStepMillis,
          _, each .connectAttempts, _, each .feedbackMillis, rfl⟩

end Rover.Config
