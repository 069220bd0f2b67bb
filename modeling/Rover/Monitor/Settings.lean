import Rover.Entry
import Rover.Json.Decode
import Rover.Json.Printer

/-!
# Settings of a monitor

What a monitor watches, in which direction its threshold is crossed, and for how long it looks.
-/

namespace Rover

/-- The family of sensors that a monitor watches. -/
inductive MonitorKind where
  | light
  | temperature
  deriving DecidableEq, Repr

namespace MonitorKind

/-- The name of a family, in messages and in the data format. -/
def name : MonitorKind → String
  | .light => "Light"
  | .temperature => "Temperature"

/-- The families by name. -/
def choices : List (String × MonitorKind) :=
  [.light, .temperature].map fun kind => (kind.name, kind)

end MonitorKind

/-- The light sensors that a monitor samples. -/
inductive LightSensor where
  | left
  | right
  | both
  deriving DecidableEq, Repr

namespace LightSensor

/-- The word for a choice of sensors. -/
def name : LightSensor → String
  | .left => "left"
  | .right => "right"
  | .both => "both"

/-- The choices by word. -/
def choices : List (String × LightSensor) :=
  [.left, .right, .both].map fun sensor => (sensor.name, sensor)

/-- Reads an entered choice. -/
def ofEntry (raw : String) : Except EntryError LightSensor := Entry.choice choices raw

end LightSensor

/-- The direction in which a threshold is crossed: down to it or up to it. -/
inductive ThresholdRange where
  | minimum
  | maximum
  deriving DecidableEq, Repr

namespace ThresholdRange

/-- The word for a direction. -/
def name : ThresholdRange → String
  | .minimum => "minimum"
  | .maximum => "maximum"

/-- The word for a direction as a message shows it. -/
def title : ThresholdRange → String
  | .minimum => "Minimum"
  | .maximum => "Maximum"

/-- The directions by word. -/
def choices : List (String × ThresholdRange) :=
  [.minimum, .maximum].map fun range => (range.name, range)

/-- The words that an operator may enter. -/
def entryChoices : List (String × ThresholdRange) :=
  choices ++ [("min", .minimum), ("max", .maximum)]

/-- Reads an entered direction. -/
def ofEntry (raw : String) : Except EntryError ThresholdRange := Entry.choice entryChoices raw

/-- Whether a sample crosses the threshold. The threshold itself does. -/
def isExceeded (range : ThresholdRange) (sample threshold : Binary64) : Bool :=
  match range with
  | .minimum => sample.atMost threshold
  | .maximum => threshold.atMost sample

end ThresholdRange

/-- The settings of one monitor run. -/
structure MonitorSettings where
  range : ThresholdRange
  threshold : Int32
  durationSeconds : UInt32
  deriving DecidableEq

namespace MonitorSettings

/-- Settings from three entries, of which the first invalid one is reported. Every threshold
and every duration of its type is allowed. -/
def ofEntries (range threshold duration : String) : Except EntryError MonitorSettings := do
  let range ← ThresholdRange.ofEntry range
  let threshold ← Entry.inRange Int32.minValue Int32.maxValue threshold
  let durationSeconds ← Entry.inRange (0 : UInt32) 4294967295 duration
  pure { range, threshold, durationSeconds }

/-- The settings in the data format. -/
def dataText (settings : MonitorSettings) : String :=
  Json.compact
    [("range", Json.quoted settings.range.name),
     ("threshold", toString settings.threshold.toInt),
     ("duration_secs", toString settings.durationSeconds.toNat)]

/-- Decodes settings, all of whose fields have to be given. -/
def decoder : Json.Decoder MonitorSettings := fun value => do
  let form ← Json.form? 3 value
  let range ← form.field 0 "range" (.choice ThresholdRange.choices) none
  let threshold ← form.field 1 "threshold" .int32 none
  let durationSeconds ← form.field 2 "duration_secs" .uint32 none
  pure { range, threshold, durationSeconds }

end MonitorSettings

end Rover
