import Rover.Binary64.Arithmetic
import Rover.Entry
import Rover.Json.Printer

/-!
# Parameters of a run

Motor speed, LED brightness and wait duration are shared by all commands of a run. They are
bounded when they are entered, so that no command has to look at their range.
-/

namespace Rover

/-- The parameters that all commands of a run share. -/
structure Parameters where
  /-- Motor power, the sign being the direction. -/
  motorSpeed : Int16
  /-- Brightness of a colour channel of the LED. -/
  ledBrightness : UInt8
  /-- Wait duration in seconds. -/
  waitSeconds : Binary64
  deriving DecidableEq

namespace Parameters

/-- The lowest motor speed: full power backwards. -/
def leastSpeed : Int16 := -255

/-- The highest motor speed: full power forwards. -/
def greatestSpeed : Int16 := 255

/-- The shortest wait in seconds. -/
def leastWait : Binary64 := .zero

/-- The longest wait in seconds. -/
def greatestWait : Binary64 := .ofNat 180

/-- Whether a motor speed is within its bounds. -/
def speedInBounds (speed : Int16) : Bool :=
  decide (leastSpeed ≤ speed) && decide (speed ≤ greatestSpeed)

/-- Whether a wait is within its bounds, which no special value is. -/
def waitInBounds (wait : Binary64) : Bool := leastWait.atMost wait && wait.atMost greatestWait

/-- Parameters within their bounds. Every brightness is. -/
def WF (parameters : Parameters) : Prop :=
  speedInBounds parameters.motorSpeed = true ∧ waitInBounds parameters.waitSeconds = true

instance (parameters : Parameters) : Decidable parameters.WF :=
  inferInstanceAs (Decidable (_ ∧ _))

/-- Parameters from typed values; the speed is looked at before the wait. -/
def ofValues (speed : Int16) (brightness : UInt8) (wait : Binary64) :
    Except EntryError Parameters :=
  if !speedInBounds speed then
    .error (.outOfRange (EntryNumber.shown leastSpeed) (EntryNumber.shown greatestSpeed))
  else if !waitInBounds wait then .error (.outOfRange leastWait greatestWait)
  else .ok ⟨speed, brightness, wait⟩

/-- Parameters from three entries, of which the first invalid one is reported. -/
def ofEntries (speed brightness wait : String) : Except EntryError Parameters := do
  let speed ← Entry.inRange leastSpeed greatestSpeed speed
  let brightness ← Entry.inRange (0 : UInt8) 255 brightness
  let wait ← Entry.inRange leastWait greatestWait wait
  ofValues speed brightness wait

/-- The wait in milliseconds, rounded to the nearest one. -/
def waitMillis (parameters : Parameters) : UInt32 :=
  (parameters.waitSeconds.mul (.ofNat 1000)).round.toUInt32

/-- The whole seconds of the wait, which some commands take for a repeat count. -/
def wholeWaitSeconds (parameters : Parameters) : UInt32 :=
  parameters.waitSeconds.floor.toUInt32

/-- The parameters in the data format. -/
def dataText (parameters : Parameters) : String :=
  Json.compact
    [("motor_speed", toString parameters.motorSpeed.toInt),
     ("led_brightness", toString parameters.ledBrightness.toNat),
     ("wait_secs", parameters.waitSeconds.dataText)]

end Parameters

end Rover
