import Rover.Command
import Rover.Decimal.Printer
import Rover.Journal.Notice
import Rover.Monitor.Settings

/-!
# Events

What a run reports as it goes: commands with their effect done, samples taken, how monitors
ended, and the state of the link. Indices count from zero and ticks from one.
-/

namespace Rover

/-- One thing that happened. -/
inductive Event where
  | commandExecuted (index : Nat) (command : Command)
  | commandSkipped (index : Nat)
  | temperatureRecorded (index : Nat) (celsius : Binary64)
  | recordingCancelled (taken requested : Nat)
  | monitorSample (kind : MonitorKind) (tick : Nat) (left right : Option Binary64)
  | alarmTriggered (kind : MonitorKind) (elapsed : Nat)
  | monitorTimedOut (kind : MonitorKind) (elapsed : Nat)
  | monitorCancelled (kind : MonitorKind) (elapsed : Nat)
  | connectAttempt (attempt : Nat) (connected : Bool)
  | disconnected
  | robotReset
  deriving DecidableEq

namespace Event

/-- A reading of one side as a line shows it; a side that was not sampled is a dash. -/
def sideText : Option Binary64 → String
  | some value => value.fixed 1
  | none => "-"

/-- The event as a line of the log. -/
def notice : Event → Notice
  | .commandExecuted index command => ⟨.info, s!"EXEC | #{index + 1} {command.name}"⟩
  | .commandSkipped index => ⟨.warn, s!"EXEC | #{index + 1} NONE skipped"⟩
  | .temperatureRecorded index celsius => ⟨.info, s!"TEMP | #{index + 1} {celsius.fixed 2}°C"⟩
  | .recordingCancelled taken requested =>
    ⟨.warn, s!"TEMP | cancelled after {taken}/{requested} samples"⟩
  | .monitorSample kind tick left right =>
    ⟨.info, s!"SAMPLE | {kind.name} t={tick}s | left={sideText left} right={sideText right}"⟩
  | .alarmTriggered kind elapsed =>
    ⟨.warn, s!"ALARM | {kind.name} threshold exceeded after {elapsed} s"⟩
  | .monitorTimedOut kind elapsed =>
    ⟨.info, s!"ALARM | {kind.name} threshold not exceeded in {elapsed} s"⟩
  | .monitorCancelled kind elapsed =>
    ⟨.info, s!"ALARM | {kind.name} monitoring cancelled after {elapsed} s"⟩
  | .connectAttempt attempt connected =>
    ⟨.info, "LINK | attempt " ++ toString attempt ++
      (if connected then " connected" else " failed")⟩
  | .disconnected => ⟨.info, "LINK | disconnected"⟩
  | .robotReset => ⟨.info, "RESET | motors stopped, tone off, LED off"⟩

end Event

end Rover
