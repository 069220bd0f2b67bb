import Rover.Parameters

/-!
# Session configuration

All timings and defaults of a session. A configuration out of its bounds is refused as a
whole; nothing is clamped.
-/

namespace Rover

/-- Why a configuration cannot be used. -/
inductive ConfigError where
  | notFound
  | corrupted
  | validationFailed (field : String)
  | ioError
  deriving DecidableEq, Repr

namespace ConfigError

/-- What the operator is told. -/
def message : ConfigError → String
  | .notFound => "config not found"
  | .corrupted => "config corrupted"
  | .validationFailed field => "validation failed: " ++ field
  | .ioError => "I/O error"

end ConfigError

/-- The settings of a session. The initial values are the configuration of a session whose
operator keeps none. -/
structure Config where
  /-- Motor speed until the operator enters one. -/
  motorSpeed : Int16 := 100
  /-- LED brightness until the operator enters one. -/
  ledBrightness : UInt8 := 255
  /-- Wait in seconds until the operator enters one. -/
  waitSeconds : Binary64 := .ofNat 1
  /-- Frequency of the alarm tone. -/
  alarmHertz : UInt32 := 1000
  /-- Length of the alarm tone. -/
  alarmMillis : UInt32 := 1000
  /-- Hold of each colour while the LED cycles; three make about one second. -/
  ledStepMillis : UInt32 := 333
  /-- Hold of each phase of the song and dance. -/
  danceStepMillis : UInt32 := 500
  /-- How often to try to reach the robot. -/
  connectAttempts : UInt8 := 3
  /-- Hold of the LED after an attempt to reach the robot. -/
  feedbackMillis : UInt32 := 1500
  deriving DecidableEq

namespace Config

/-- The configuration of a session whose operator keeps none. -/
def standard : Config := {}

instance : Inhabited Config := ⟨standard⟩

/-- The name of the first field out of its bounds. -/
def firstBadField? (config : Config) : Option String :=
  if !Parameters.speedInBounds config.motorSpeed then some "default_motor_speed"
  else if !config.waitSeconds.isFinite || !Parameters.waitInBounds config.waitSeconds then
    some "default_wait_secs"
  else if config.alarmHertz = 0 then some "alarm_frequency_hz"
  else if config.connectAttempts = 0 then some "connect_attempts"
  else none

/-- Accepts a configuration whose fields are all within their bounds. -/
def validate (config : Config) : Except ConfigError Unit :=
  match config.firstBadField? with
  | some field => .error (.validationFailed field)
  | none => .ok ()

/-- Whether two configurations have equal fields, the wait being compared as a number. -/
def sameAs (left right : Config) : Bool :=
  left.motorSpeed = right.motorSpeed && left.ledBrightness = right.ledBrightness &&
  left.waitSeconds.sameNumber right.waitSeconds && left.alarmHertz = right.alarmHertz &&
  left.alarmMillis = right.alarmMillis && left.ledStepMillis = right.ledStepMillis &&
  left.danceStepMillis = right.danceStepMillis &&
  left.connectAttempts = right.connectAttempts && left.feedbackMillis = right.feedbackMillis

end Config

end Rover
