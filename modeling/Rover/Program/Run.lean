import Rover.Config
import Rover.Program
import Rover.Recording

/-!
# Running a program

Every command has one fixed recipe of calls to the robot, given by the parameters of the run
and the configured holds. Nothing is checked here: the parameters were bounded when they were
entered. A call that fails ends the run, and bringing the robot to rest is left to the caller.
-/

namespace Rover

namespace Parameters

/-- A quarter of the motor speed, for the inner wheel of a turn. -/
def quarterSpeed (parameters : Parameters) : Int16 := parameters.motorSpeed / 4

/-- Three quarters of the motor speed, for the spin of the dance. -/
def spinSpeed (parameters : Parameters) : Int16 :=
  Int16.ofInt (Int.tdiv (parameters.motorSpeed.toInt * 3) 4)

end Parameters

/-- What running a program takes over from a configuration: how long its colours and the phases of
its dance are held. -/
structure Holds where
  ledStepMillis : UInt32
  danceStepMillis : UInt32
  deriving DecidableEq, Repr

/-- The configured holds. -/
def Holds.ofConfig (config : Config) : Holds where
  ledStepMillis := config.ledStepMillis
  danceStepMillis := config.danceStepMillis

namespace Program

variable {ρ τ : Type}

/-- An action several times. -/
def times (action : Act ρ τ Unit) : Nat → Act ρ τ Unit
  | 0 => pure ()
  | count + 1 => do
    action
    times action count

variable [Robot ρ]

/-- One cycle of the LED through red, green and blue. -/
def ledCycle (holds : Holds) (brightness : UInt8) : Act ρ τ Unit := do
  Act.call (.setLed ⟨brightness, 0, 0⟩)
  Act.call (.wait holds.ledStepMillis)
  Act.call (.setLed ⟨0, brightness, 0⟩)
  Act.call (.wait holds.ledStepMillis)
  Act.call (.setLed ⟨0, 0, brightness⟩)
  Act.call (.wait holds.ledStepMillis)

/-- Five phases: colour, spin and first tone; second tone; new colour, opposite spin and third
tone; stop and last tone; silence. Only the left wheel spins. The tones are those of a major
chord on C with the octave. -/
def songAndDance (holds : Holds) (parameters : Parameters) : Act ρ τ Unit := do
  let spin := parameters.spinSpeed
  let brightness := parameters.ledBrightness
  let hold := Call.wait holds.danceStepMillis
  Act.call (.setLed ⟨brightness, 0, brightness⟩)
  Act.call (.setMotors spin 0)
  Act.call (.noteOn 523)
  Act.call hold
  Act.call (.noteOn 659)
  Act.call hold
  Act.call (.setLed ⟨0, brightness, brightness⟩)
  Act.call (.setMotors (-spin) 0)
  Act.call (.noteOn 784)
  Act.call hold
  Act.call (.setMotors 0 0)
  Act.call (.noteOn 1047)
  Act.call hold
  Act.call .noteOff

/-- Records one temperature a second and reports the average, if there is one. -/
def recordTemperature (count : Recording.Count) : Act ρ τ Unit := do
  let series ← Recording.withWaits oneSecond count
  match series.average? with
  | some average =>
    Act.notice .info
      s!"Interpreter: {series.samples.size} temperature samples, average {average.fixed 2} C"
  | none => pure ()

/-- The effect of one command. -/
def perform (holds : Holds) (parameters : Parameters) (command : Command) : Act ρ τ Unit := do
  let speed := parameters.motorSpeed
  Act.notice .debug s!"Interpreter: {command.name}"
  match command with
  | .placeholder => Act.notice .warn "Interpreter: unrecognized input, skipping"
  | .songAndDance => songAndDance holds parameters
  | .moveForward => Act.call (.setMotors speed speed)
  | .moveBackward => Act.call (.setMotors (-speed) (-speed))
  | .stopMotors => Act.call (.setMotors 0 0)
  | .wait => Act.call (.wait parameters.waitMillis)
  | .turnRight => Act.call (.setMotors parameters.quarterSpeed speed)
  | .turnLeft => Act.call (.setMotors speed parameters.quarterSpeed)
  | .ledOn =>
    times (ledCycle holds parameters.ledBrightness) parameters.wholeWaitSeconds.toNat
  | .ledOff => Act.call (.setLed .dark)
  | .getTemperature => recordTemperature (.ofWord parameters.wholeWaitSeconds)
  | .done => pure ()

/-- What is reported of a command once its effect is done. -/
def report (index : Nat) (command : Command) : Event :=
  if command = .placeholder then .commandSkipped index else .commandExecuted index command

/-- Runs commands, the first one having the given index, and gives the trace of those that
ran. -/
def runFrom (holds : Holds) (parameters : Parameters) :
    Program → (index : Nat) → Act ρ τ (List Command)
  | [], _ => pure []
  | command :: rest, index => do
    perform holds parameters command
    Act.emit (report index command)
    let trace ← runFrom holds parameters rest (index + 1)
    pure (command :: trace)

/-- Runs a program and gives its trace. An empty program is not even announced. -/
def run (holds : Holds) (parameters : Parameters) (program : Program) :
    Act ρ τ (List Command) := do
  if !program.isEmpty then
    Act.notice .info <|
      s!"Interpreter: running {program.length} commands (speed={parameters.motorSpeed.toInt}, " ++
      s!"brightness={parameters.ledBrightness.toNat}, wait={parameters.waitSeconds.text}s)"
  runFrom holds parameters program 0

end Program

end Rover
