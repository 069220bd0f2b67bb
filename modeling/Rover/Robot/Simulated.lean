import Rover.Robot

/-!
# The simulated robot

A robot without hardware. It keeps every accepted call, its readings come from scripts, and it
can be told to be out of reach for a while or to fail one kind of call. A call that it does not
accept changes nothing.
-/

namespace Rover

/-- The readings of a sensor: the pending ones in order, and the latest one, which repeats once
none is pending. -/
structure Script (α : Type) where
  pending : List α
  latest : α
  deriving DecidableEq

namespace Script

variable {α : Type}

/-- A sensor whose reading does not change. -/
def constant (value : α) : Script α := ⟨[], value⟩

/-- Takes a reading. -/
def next : Script α → α × Script α
  | ⟨value :: pending, _⟩ => (value, ⟨pending, value⟩)
  | ⟨[], latest⟩ => (latest, ⟨[], latest⟩)

@[simp] theorem next_cons (value latest : α) (pending : List α) :
    next ⟨value :: pending, latest⟩ = (value, ⟨pending, value⟩) := rfl

@[simp] theorem next_nil (latest : α) : next ⟨[], latest⟩ = (latest, ⟨[], latest⟩) := rfl

/-- Adds readings after the pending ones. -/
def extend (script : Script α) (values : List α) : Script α :=
  { script with pending := script.pending ++ values }

@[simp] theorem extend_nil (script : Script α) : script.extend [] = script := by
  simp [extend]

@[simp] theorem extend_extend (script : Script α) (first second : List α) :
    (script.extend first).extend second = script.extend (first ++ second) := by
  simp [extend]

end Script

/-- A robot in memory. At first it is within reach, at rest, at room temperature and in a dim
room. -/
structure SimulatedRobot where
  /-- Every accepted call in order. -/
  calls : Array Call := #[]
  connected : Bool := false
  /-- How many more accepted attempts to connect do not reach the robot. -/
  unreachable : Nat := 0
  /-- The name of the operation that always fails. -/
  failing : Option String := none
  /-- Whether waits take real time. -/
  realtime : Bool := false
  temperature : Script Binary64 := .constant (.ofNat 21)
  leftLight : Script Int32 := .constant 20
  rightLight : Script Int32 := .constant 20
  motors : Int16 × Int16 := (0, 0)
  led : Colour := .dark
  tone : Option UInt32 := none

namespace SimulatedRobot

instance : Inhabited SimulatedRobot := ⟨{}⟩

/-- Whether the motors are stopped, the buzzer is silent and the LED is dark. -/
def isQuiescent (robot : SimulatedRobot) : Bool :=
  robot.motors = (0, 0) && robot.tone = none && robot.led = .dark

/-- Why a call is not accepted. Being unconnected comes before the injected fault. -/
def refusal? (robot : SimulatedRobot) (call : Call) : Option DeviceError :=
  if call ≠ .connect ∧ robot.connected = false then some .notConnected
  else if robot.failing = some call.name then
    some (if call.isReading then .readFailed call.name else .writeFailed call.name)
  else none

/-- What the log is told of a call that is not accepted: only an injected fault is told. -/
def refusalNotices (call : Call) : DeviceError → List Notice
  | .notConnected => []
  | _ => [⟨.debug, "SimulatedRobot: injected fault on " ++ call.name⟩]

/-- The nanoseconds that an accepted call really takes. -/
def pause (realtime : Bool) : Call → Nat
  | .wait millis => if realtime then millis.toNat * 1000000 else 0
  | _ => 0

/-- The effect and the reply of an accepted call. -/
def apply : (call : Call) → SimulatedRobot → call.Reply × SimulatedRobot
  | .connect, robot =>
    if robot.unreachable = 0 then (true, { robot with connected := true })
    else (false, { robot with unreachable := robot.unreachable - 1 })
  | .disconnect, robot => ((), { robot with connected := false })
  | .setMotors left right, robot => ((), { robot with motors := (left, right) })
  | .setLed colour, robot => ((), { robot with led := colour })
  | .noteOn hertz, robot => ((), { robot with tone := some hertz })
  | .noteOff, robot => ((), { robot with tone := none })
  | .wait _, robot => ((), robot)
  | .temperature, robot =>
    let (reading, script) := robot.temperature.next
    (reading, { robot with temperature := script })
  | .leftLight, robot =>
    let (reading, script) := robot.leftLight.next
    (reading, { robot with leftLight := script })
  | .rightLight, robot =>
    let (reading, script) := robot.rightLight.next
    (reading, { robot with rightLight := script })

/-- Keeps an accepted call. -/
def keep (call : Call) (robot : SimulatedRobot) : SimulatedRobot :=
  { robot with calls := robot.calls.push call }

/-- Answers a call. -/
def perform (call : Call) (robot : SimulatedRobot) : Response SimulatedRobot call.Reply :=
  match robot.refusal? call with
  | some error => { result := .error error, robot, notices := refusalNotices call error }
  | none =>
    let pause := pause robot.realtime call
    let (reply, robot) := apply call (robot.keep call)
    { result := .ok reply, robot, pause
      notices := [⟨.trace, "SimulatedRobot: " ++ call.shown⟩] }

instance : Robot SimulatedRobot := ⟨perform⟩

/-! ## Provisions -/

/-- What a robot can be told before its first call. -/
inductive Provision where
  | realtime (on : Bool)
  | unreachableFor (attempts : UInt32)
  | failOn (operation : String)
  | temperatures (values : List Binary64)
  | leftLevels (values : List Int32)
  | rightLevels (values : List Int32)
  deriving DecidableEq

namespace Provision

end Provision

/-- The robot that a provision makes of another one. -/
def provide (robot : SimulatedRobot) : Provision → SimulatedRobot
  | .realtime on => { robot with realtime := on }
  | .unreachableFor attempts => { robot with unreachable := attempts.toNat }
  | .failOn operation => { robot with failing := some operation }
  | .temperatures values => { robot with temperature := robot.temperature.extend values }
  | .leftLevels values => { robot with leftLight := robot.leftLight.extend values }
  | .rightLevels values => { robot with rightLight := robot.rightLight.extend values }

/-- A robot with further provisions. -/
def provideAll (robot : SimulatedRobot) (provisions : List Provision) : SimulatedRobot :=
  provisions.foldl provide robot

/-- A new robot with provisions. -/
def provided (provisions : List Provision) : SimulatedRobot := provideAll {} provisions

@[simp] theorem provideAll_nil (robot : SimulatedRobot) : robot.provideAll [] = robot := rfl

end SimulatedRobot

end Rover
