import Rover.Error
import Rover.Monitor.Watch
import Rover.Program.Run
import Rover.Recording

/-!
# Sessions

A session is what an operator works with: a configuration, the parameters and the program of
the next run, and whether the robot is connected. Its operations act on the session and on the
world at once.
-/

namespace Rover

/-- What an operator has set up. Programs run by the holds and monitors sound the alarm that were
taken over from the configuration when the session was opened. -/
structure Session where
  config : Config
  holds : Holds
  alarmTone : AlarmTone
  parameters : Parameters
  program : Program := []
  connected : Bool := false
  deriving DecidableEq

namespace Session

/-- A session of a configuration that has no program and no link yet. -/
def start (config : Config) (parameters : Parameters) : Session where
  config := config
  holds := .ofConfig config
  alarmTone := .ofConfig config
  parameters := parameters

/-- Opens a session. It starts with the configured parameters and without a program. -/
def open? (config : Config) : Except Error Session := do
  config.validate.mapError .config
  let parameters ←
    (Parameters.ofValues config.motorSpeed config.ledBrightness config.waitSeconds).mapError .entry
  pure (start config parameters)

end Session

/-- A session together with the world that it acts on. -/
structure Desk (ρ τ : Type) where
  session : Session
  world : World ρ τ

/-- An operation of a session. -/
abbrev Operation (ρ τ : Type) : Type → Type := EStateM Error (Desk ρ τ)

namespace Operation

variable {ρ τ : Type}

/-- Acts on the world and leaves the session as it is. -/
def act {α : Type} (action : Act ρ τ α) : Operation ρ τ α
  | ⟨session, world⟩ =>
    match action world with
    | .ok value world => .ok value ⟨session, world⟩
    | .error error world => .error (.device error) ⟨session, world⟩

theorem act_eq {α : Type} (action : Act ρ τ α) (desk : Desk ρ τ) :
    act action desk =
      match action desk.world with
      | .ok value world => .ok value ⟨desk.session, world⟩
      | .error error world => .error (.device error) ⟨desk.session, world⟩ := rfl

/-- Changes the session and leaves the world as it is. -/
def change (update : Session → Session) : Operation ρ τ Unit
  | ⟨session, world⟩ => .ok () ⟨update session, world⟩

/-- The session as it stands. -/
def session : Operation ρ τ Session := fun desk => .ok desk.session desk

/-- Adds a line to the journal. -/
def notice (level : Level) (text : String) : Operation ρ τ Unit := act (Act.notice level text)

end Operation

namespace Session

variable {ρ τ : Type}

/-- Replaces the parameters. -/
def setParameters (parameters : Parameters) : Operation ρ τ Unit := do
  Operation.notice .info <|
    s!"Session: parameters speed={parameters.motorSpeed.toInt} " ++
    s!"brightness={parameters.ledBrightness.toNat} wait={parameters.waitSeconds.text}s"
  Operation.change fun session => { session with parameters }

/-- Replaces the parameters from three entries. If one is invalid all stay as they are. -/
def enterParameters (speed brightness wait : String) : Operation ρ τ Unit := do
  match Parameters.ofEntries speed brightness wait with
  | .error error => throw (.entry error)
  | .ok parameters => setParameters parameters

/-- Replaces the program. -/
def setProgram (program : Program) : Operation ρ τ Unit := do
  Operation.notice .info s!"Session: program of {program.length} commands loaded"
  Operation.change fun session => { session with program }

variable [Robot ρ]

/-- Brings the robot to rest and reports it. -/
def quiesceAndReport : Act ρ τ Unit := do
  Act.quiesce
  Act.emit .robotReset

/-- Brings the robot to rest. -/
def reset : Operation ρ τ Unit := Operation.act quiesceAndReport

/-- What follows an attempt that reached the robot: it is shown on the LED, and only then the
session counts as connected and the robot is brought to rest. -/
def welcome (attempt : Nat) : Operation ρ τ Unit := do
  let config := (← Operation.session).config
  Operation.notice .info s!"Session: connected on attempt {attempt}"
  Operation.act do
    Act.call (.setLed ⟨0, 0, 255⟩)
    Act.call (.wait config.feedbackMillis)
  Operation.change fun session => { session with connected := true }
  reset

/-- What follows an attempt that did not reach the robot: it is shown on the LED as far as
that can be reached, and held only if it was shown. -/
def showUnreached (config : Config) (attempt : Nat) : Act ρ τ Unit := do
  Act.notice .warn
    s!"Session: connect attempt {attempt}/{config.connectAttempts.toNat} failed"
  match ← Act.outcome (Act.call (.setLed ⟨255, 0, 0⟩)) with
  | .ok _ => Act.call (.wait config.feedbackMillis)
  | .error _ => pure ()

/-- Tries to reach the robot up to `remaining` further times, the next attempt having the given
number. -/
def connectFrom : (remaining attempt : Nat) → Operation ρ τ Bool
  | 0, _ => do
    Operation.notice .error "Session: robot unreachable"
    pure false
  | remaining + 1, attempt => do
    let reached : Bool ← Operation.act do
      let reached : Bool ← Act.call .connect
      Act.emit (.connectAttempt attempt reached)
      pure reached
    if reached then
      welcome attempt
      pure true
    else
      Operation.act (showUnreached (← Operation.session).config attempt)
      connectFrom remaining (attempt + 1)

/-- Tries to reach the robot as often as configured, and tells whether it was reached. -/
def connect : Operation ρ τ Bool := do
  connectFrom (← Operation.session).config.connectAttempts.toNat 1

/-- Brings the robot to rest and closes the link. Without a link nothing is done. -/
def disconnect : Operation ρ τ Unit := do
  if (← Operation.session).connected then
    reset
    Operation.act (Act.call .disconnect)
    Operation.change fun session => { session with connected := false }
    Operation.act (Act.emit .disconnected)
    Operation.notice .info "Session: disconnected"

/-- Runs the program and then brings the robot to rest, whether or not the program came to its
end. If both fail, the failure of the program is the result and the other one is only
noticed. -/
def runProgram : Operation ρ τ (List Command) := do
  let session ← Operation.session
  Operation.act do
    let ran ← Act.outcome (session.program.run session.holds session.parameters)
    let rested ← Act.outcome quiesceAndReport
    match ran, rested with
    | .ok trace, .ok () => pure trace
    | .ok _, .error error => throw error
    | .error error, rested =>
      Act.notice .error s!"Session: program aborted: {error.message}"
      match rested with
      | .ok () => pure ()
      | .error second =>
        Act.notice .error
          s!"Session: reset after abort failed: {(Error.device second).message}"
      throw error

/-- Watches one or both light sensors. -/
def monitorLight [Ticker τ] (sensor : LightSensor) (settings : MonitorSettings) :
    Operation ρ τ MonitorReport := do
  Operation.act (Monitor.watchLight (← Operation.session).alarmTone sensor settings)

/-- Watches the temperature sensor. -/
def monitorTemperature [Ticker τ] (settings : MonitorSettings) :
    Operation ρ τ MonitorReport := do
  Operation.act (Monitor.watchTemperature (← Operation.session).alarmTone settings)

/-- Records temperatures at the pace of the ticker, one a period. -/
def recordTemperature [Ticker τ] (count : UInt32) (period : Nat) : Operation ρ τ Series :=
  Operation.act (Recording.withTicker period (.ofWord count))

end Session

end Rover
