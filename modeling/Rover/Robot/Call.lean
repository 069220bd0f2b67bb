import Rover.Binary64.Basic

/-!
# Calls to the robot

The primitive operations of a robot. Units are fixed: motor power from -255 to 255 with the
sign as direction, colour channels from 0 to 255, tones in hertz, waits in milliseconds and
temperatures in degrees Celsius. Every call can fail.
-/

namespace Rover

/-- A colour of the LED. -/
structure Colour where
  red : UInt8
  green : UInt8
  blue : UInt8
  deriving DecidableEq, Repr

namespace Colour

/-- The LED switched off. -/
def dark : Colour := ⟨0, 0, 0⟩

instance : Inhabited Colour := ⟨dark⟩

end Colour

/-- One primitive operation of a robot. -/
inductive Call where
  | connect
  | disconnect
  | setMotors (left right : Int16)
  | setLed (colour : Colour)
  | noteOn (hertz : UInt32)
  | noteOff
  | wait (millis : UInt32)
  | temperature
  | leftLight
  | rightLight
  deriving DecidableEq, Repr

namespace Call

/-- What an accepted call gives back. Connecting tells whether the robot was reached. -/
abbrev Reply : Call → Type
  | .connect => Bool
  | .temperature => Binary64
  | .leftLight | .rightLight => Int32
  | .disconnect | .setMotors .. | .setLed _ | .noteOn _ | .noteOff | .wait _ => Unit

/-- The name of the operation, which errors carry. -/
def name : Call → String
  | .connect => "connect"
  | .disconnect => "disconnect"
  | .setMotors .. => "set_motors"
  | .setLed _ => "set_led"
  | .noteOn _ => "note_on"
  | .noteOff => "note_off"
  | .wait _ => "wait"
  | .temperature => "temperature"
  | .leftLight => "left_light"
  | .rightLight => "right_light"

/-- The name of the operation as the log of a robot shows it. -/
def title : Call → String
  | .connect => "Connect"
  | .disconnect => "Disconnect"
  | .setMotors .. => "SetMotors"
  | .setLed _ => "SetLed"
  | .noteOn _ => "NoteOn"
  | .noteOff => "NoteOff"
  | .wait _ => "Wait"
  | .temperature => "Temperature"
  | .leftLight => "LeftLight"
  | .rightLight => "RightLight"

/-- The arguments of a call in order. -/
def arguments : Call → List Int
  | .setMotors left right => [left.toInt, right.toInt]
  | .setLed colour => [colour.red.toNat, colour.green.toNat, colour.blue.toNat]
  | .noteOn hertz => [(hertz.toNat : Int)]
  | .wait millis => [(millis.toNat : Int)]
  | .connect | .disconnect | .noteOff | .temperature | .leftLight | .rightLight => []

/-- Whether the call reads a sensor. -/
def isReading : Call → Bool
  | .temperature | .leftLight | .rightLight => true
  | .connect | .disconnect | .setMotors .. | .setLed _ | .noteOn _ | .noteOff | .wait _ => false

/-- The call as the log of a robot shows it. -/
def shown (call : Call) : String :=
  match call.arguments with
  | [] => call.title
  | arguments => call.title ++ "(" ++ ", ".intercalate (arguments.map toString) ++ ")"

end Call

/-- Why a call failed. The tag of a failed write or read names what failed. -/
inductive DeviceError where
  | notConnected
  | connectFailed
  | writeFailed (tag : String)
  | readFailed (tag : String)
  deriving DecidableEq, Repr

namespace DeviceError

/-- What the operator is told. -/
def message : DeviceError → String
  | .notConnected => "robot not connected"
  | .connectFailed => "robot connect failed"
  | .writeFailed tag => "write failed: " ++ tag
  | .readFailed tag => "read failed: " ++ tag

end DeviceError

end Rover
