import Rover.Binary64.Arithmetic
import Rover.Config
import Rover.Monitor.Settings
import Rover.World

/-!
# Watching a threshold

A monitor takes one sample a second until a sample crosses the threshold, the duration is
over, or the ticker is cancelled. A crossing is settled by the sample alone: its tick counts
even if it was cut short. On a crossing one alarm tone sounds.
-/

namespace Rover

/-- The readings of one second. -/
inductive Sample where
  /-- Light levels; a side that was not sampled has none. -/
  | light (left right : Option Int32)
  | temperature (celsius : Binary64)
  deriving DecidableEq

namespace Sample

/-- The readings of the two sides as numbers; a temperature stands on the left. -/
def sides : Sample → Option Binary64 × Option Binary64
  | .light left right =>
    (left.map fun level => .ofInt level.toInt, right.map fun level => .ofInt level.toInt)
  | .temperature celsius => (some celsius, none)

/-- Whether any reading crosses the threshold. -/
def exceeds (sample : Sample) (range : ThresholdRange) (threshold : Int32) : Bool :=
  let crosses := fun (reading : Binary64) => range.isExceeded reading (.ofInt threshold.toInt)
  sample.sides.1.any crosses || sample.sides.2.any crosses

end Sample

/-- How a monitor run ended. -/
inductive MonitorStatus where
  | triggered
  | timedOut
  | cancelled
  deriving DecidableEq, Repr

namespace MonitorStatus

/-- The name of an ending. -/
def name : MonitorStatus → String
  | .triggered => "Triggered"
  | .timedOut => "TimedOut"
  | .cancelled => "Cancelled"

end MonitorStatus

/-- The result of a monitor run. -/
structure MonitorReport where
  status : MonitorStatus
  elapsedSeconds : Nat
  samples : Array Sample
  deriving DecidableEq

namespace MonitorReport

/-- Whether the alarm was called for. -/
def triggered (report : MonitorReport) : Bool := report.status = .triggered

/-- The result in words. -/
def text (report : MonitorReport) : String :=
  match report.status with
  | .triggered => s!"threshold exceeded after {report.elapsedSeconds} s"
  | .timedOut => s!"threshold not exceeded in {report.elapsedSeconds} s"
  | .cancelled => s!"monitoring cancelled after {report.elapsedSeconds} s"

end MonitorReport

/-- The tone that a monitor sounds on a crossing, and for how long, as taken over from a
configuration. -/
structure AlarmTone where
  hertz : UInt32
  millis : UInt32
  deriving DecidableEq, Repr

/-- The configured alarm. -/
def AlarmTone.ofConfig (config : Config) : AlarmTone where
  hertz := config.alarmHertz
  millis := config.alarmMillis

namespace Monitor

variable {ρ τ : Type} [Robot ρ]

/-- Samples the chosen light sensors, the left one first. -/
def readLight (sensor : LightSensor) : Act ρ τ Sample := do
  match sensor with
  | .left =>
    let left ← Act.call .leftLight
    pure (.light (some left) none)
  | .right =>
    let right ← Act.call .rightLight
    pure (.light none (some right))
  | .both =>
    let left ← Act.call .leftLight
    let right ← Act.call .rightLight
    pure (.light (some left) (some right))

/-- Samples the temperature sensor. -/
def readTemperature : Act ρ τ Sample := do
  let celsius ← Act.call .temperature
  pure (.temperature celsius)

/-- Samples for up to `remaining` further seconds. -/
def watchFrom [Ticker τ] (kind : MonitorKind) (settings : MonitorSettings)
    (read : Act ρ τ Sample) :
    (remaining elapsed : Nat) → (samples : Array Sample) → Act ρ τ MonitorReport
  | 0, elapsed, samples => pure ⟨.timedOut, elapsed, samples⟩
  | remaining + 1, elapsed, samples => do
    let sample ← read
    let (left, right) := sample.sides
    Act.emit (.monitorSample kind (elapsed + 1) left right)
    let samples := samples.push sample
    let tick ← Act.tick oneSecond
    if sample.exceeds settings.range settings.threshold then
      pure ⟨.triggered, elapsed + 1, samples⟩
    else if tick = .cancelled then pure ⟨.cancelled, elapsed, samples⟩
    else watchFrom kind settings read remaining (elapsed + 1) samples

/-- Sounds the alarm tone once. -/
def soundAlarm (tone : AlarmTone) : Act ρ τ Unit := do
  Act.call (.noteOn tone.hertz)
  Act.call (.wait tone.millis)
  Act.call .noteOff

/-- Reports how a run ended, and sounds the alarm if the threshold was crossed. -/
def conclude (tone : AlarmTone) (kind : MonitorKind) (report : MonitorReport) :
    Act ρ τ Unit := do
  let elapsed := report.elapsedSeconds
  match report.status with
  | .triggered =>
    Act.notice .warn s!"Monitor: {kind.name} threshold exceeded after {elapsed} s"
    Act.emit (.alarmTriggered kind elapsed)
    soundAlarm tone
  | .timedOut =>
    Act.notice .info s!"Monitor: {kind.name} threshold not exceeded"
    Act.emit (.monitorTimedOut kind elapsed)
  | .cancelled =>
    Act.notice .info s!"Monitor: {kind.name} cancelled after {elapsed} s"
    Act.emit (.monitorCancelled kind elapsed)

/-- Watches what `read` samples. -/
def watch [Ticker τ] (tone : AlarmTone) (kind : MonitorKind) (settings : MonitorSettings)
    (read : Act ρ τ Sample) : Act ρ τ MonitorReport := do
  Act.notice .info <|
    s!"Monitor: {kind.name} {settings.range.title} threshold={settings.threshold.toInt} " ++
    s!"for {settings.durationSeconds.toNat} s"
  let report ← watchFrom kind settings read settings.durationSeconds.toNat 0 #[]
  conclude tone kind report
  pure report

/-- Watches one or both light sensors. -/
def watchLight [Ticker τ] (tone : AlarmTone) (sensor : LightSensor)
    (settings : MonitorSettings) : Act ρ τ MonitorReport :=
  watch tone .light settings (readLight sensor)

/-- Watches the temperature sensor. -/
def watchTemperature [Ticker τ] (tone : AlarmTone) (settings : MonitorSettings) :
    Act ρ τ MonitorReport :=
  watch tone .temperature settings readTemperature

end Monitor

end Rover
