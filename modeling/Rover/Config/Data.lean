import Rover.Config
import Rover.Json.Decode
import Rover.Json.Printer

/-!
# Configuration in the data format

A configuration is a record of nine fields. A field that is not given keeps its standard
value, and members of other names are passed over.
-/

namespace Rover.Config

/-- Decodes a configuration over another one, whose fields stay where none are given. The
fields need not be within their bounds. -/
def overlay (base : Config) : Json.Decoder Config := fun value => do
  let form ← Json.form? 9 value
  let motorSpeed ← form.field 0 "default_motor_speed" .int16 base.motorSpeed
  let ledBrightness ← form.field 1 "default_led_brightness" .uint8 base.ledBrightness
  let waitSeconds ← form.field 2 "default_wait_secs" .binary64 base.waitSeconds
  let alarmHertz ← form.field 3 "alarm_frequency_hz" .uint32 base.alarmHertz
  let alarmMillis ← form.field 4 "alarm_duration_ms" .uint32 base.alarmMillis
  let ledStepMillis ← form.field 5 "led_step_ms" .uint32 base.ledStepMillis
  let danceStepMillis ← form.field 6 "dance_step_ms" .uint32 base.danceStepMillis
  let connectAttempts ← form.field 7 "connect_attempts" .uint8 base.connectAttempts
  let feedbackMillis ← form.field 8 "connect_feedback_ms" .uint32 base.feedbackMillis
  pure { motorSpeed, ledBrightness, waitSeconds, alarmHertz, alarmMillis, ledStepMillis,
         danceStepMillis, connectAttempts, feedbackMillis }

/-- Decodes a configuration over the standard one. -/
def decoder : Json.Decoder Config := overlay standard

/-- The fields with their values as text, in order. -/
def fields (config : Config) : List (String × String) :=
  [("default_motor_speed", toString config.motorSpeed.toInt),
   ("default_led_brightness", toString config.ledBrightness.toNat),
   ("default_wait_secs", config.waitSeconds.dataText),
   ("alarm_frequency_hz", toString config.alarmHertz.toNat),
   ("alarm_duration_ms", toString config.alarmMillis.toNat),
   ("led_step_ms", toString config.ledStepMillis.toNat),
   ("dance_step_ms", toString config.danceStepMillis.toNat),
   ("connect_attempts", toString config.connectAttempts.toNat),
   ("connect_feedback_ms", toString config.feedbackMillis.toNat)]

/-- Reads a configuration from a text. -/
def ofText? (text : String) : Option Config := Json.decode? decoder text

/-- The configuration on one line. -/
def compactText (config : Config) : String := Json.compact config.fields

/-- The configuration with one field to a line. -/
def spreadText (config : Config) : String := Json.spread config.fields

end Rover.Config
