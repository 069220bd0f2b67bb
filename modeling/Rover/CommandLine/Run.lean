import Rover.CommandLine.Arguments
import Rover.Config.Stored
import Rover.Robot.Simulated
import Rover.Session

/-!
# The run of a command line

One fixed order: load the configuration, set up the session, connect, run the program, watch the
threshold, and disconnect. What fails ends the run, but a robot that was connected is brought
to rest and disconnected on every path.
-/

namespace Rover.CommandLine

/-- The version that the program tells. -/
def version : String := "0.3.0"

/-- Why a run ended early: what was being done, if that is told, and the cause. -/
structure Failure where
  context : Option String
  cause : String
  deriving DecidableEq, Repr

namespace Failure

/-- The lines that tell a failure. The cause is set in under its context, each of its own lines
for itself. -/
def lines (failure : Failure) : List String :=
  match failure.context with
  | none => ["Error: " ++ failure.cause]
  | some context =>
    ["Error: " ++ context, "", "Caused by:"] ++
    (Text.pieces '\n' failure.cause.toList).map fun line => "    " ++ String.ofList line

end Failure

/-- The desk of a command line: a simulated robot, and a ticker that sleeps or not. -/
abbrev CommandDesk := Desk SimulatedRobot Pacer

/-- A stage of the run. -/
abbrev Stage := EStateM Failure CommandDesk

namespace Stage

/-- An operation of the session as a stage. -/
def operate {α : Type} (context : Option String)
    (operation : Operation SimulatedRobot Pacer α) : Stage α := fun desk =>
  match operation desk with
  | .ok value desk => .ok value desk
  | .error error desk => .error ⟨context, error.message⟩ desk

/-- An entry that has to be valid. -/
def require {α : Type} (context : String) : Except EntryError α → Stage α
  | .ok value => pure value
  | .error error => throw ⟨some context, (Error.entry error).message⟩

/-- Adds a line to the journal. -/
def notice (level : Level) (text : String) : Stage Unit :=
  operate none (Operation.notice level text)

/-- Runs a stage and gives its result as a value, a failure included. -/
def outcome {α : Type} (stage : Stage α) : Stage (Except Failure α) := fun desk =>
  match stage desk with
  | .ok value desk => .ok (.ok value) desk
  | .error failure desk => .ok (.error failure) desk

end Stage

/-- Enters the given parameters. Those that are not given are entered as the session has them;
if none is given nothing is entered. -/
def enterParameters (arguments : Arguments) : Stage Unit := do
  let speed? := arguments.value? .speed
  let brightness? := arguments.value? .brightness
  let wait? := arguments.value? .wait
  if speed?.isSome || brightness?.isSome || wait?.isSome then
    let current := (← Stage.operate none Operation.session).parameters
    let speed := speed?.getD (toString current.motorSpeed.toInt)
    let brightness := brightness?.getD (toString current.ledBrightness.toNat)
    let wait := wait?.getD current.waitSeconds.text
    Stage.operate (some "invalid parameters") (Session.enterParameters speed brightness wait)

/-- Loads the given program, if there is one. -/
def loadProgram (arguments : Arguments) : Stage Unit := do
  match arguments.value? .program with
  | none => pure ()
  | some text =>
    match Program.ofText text with
    | .error error => throw ⟨some "invalid program", error.message⟩
    | .ok program => Stage.operate none (Session.setProgram program)

/-- Runs the program unless it is empty. -/
def runProgram : Stage Unit := do
  let session ← Stage.operate none Operation.session
  if !session.program.isEmpty then
    let trace ← Stage.operate none Session.runProgram
    Stage.notice .info ("Program complete: " ++ " ".intercalate (trace.map Command.name))

/-- Watches the threshold if that is asked for. Only now the settings are looked at. -/
def runMonitor (arguments : Arguments) : Stage Unit := do
  match arguments.value? .monitor with
  | none => pure ()
  | some kind =>
    let settings ← Stage.require "invalid monitor settings"
      (MonitorSettings.ofEntries (arguments.value .range) (arguments.value .threshold)
        (arguments.value .duration))
    let report ←
      if kind = "light" then do
        let sensor ← Stage.require "invalid --sensor"
          (LightSensor.ofEntry (arguments.value .sensor))
        Stage.operate none (Session.monitorLight sensor settings)
      else Stage.operate none (Session.monitorTemperature settings)
    Stage.notice .info ("Monitor: " ++ report.text)

/-- Closes the link. A failure is only noticed. -/
def disconnect : Stage Unit := do
  match ← Stage.outcome (Stage.operate none Session.disconnect) with
  | .ok () => pure ()
  | .error failure => Stage.notice .warn ("disconnect failed: " ++ failure.cause)

/-- All that is done once a session is open. -/
def drive (arguments : Arguments) : Stage Unit := do
  enterParameters arguments
  loadProgram arguments
  if ← Stage.operate none Session.connect then
    let driven ← Stage.outcome do
      runProgram
      runMonitor arguments
    disconnect
    match driven with
    | .ok () => pure ()
    | .error failure => throw failure
  else throw ⟨none, "robot unreachable"⟩

/-- The desk at the start of a run, with the journal so far. -/
def deskOf (arguments : Arguments) (session : Session) (notices : List Notice) : CommandDesk where
  session := session
  world :=
    { robot := { realtime := arguments.realtime }
      ticker := if arguments.realtime then .sleeping {} else .manual { token := some false }
      journal := (notices.map Record.notice).toArray }

/-- How a run ended: the journal of all that happened, and the failure if there was one. -/
structure Report where
  journal : Journal
  failure : Option Failure

namespace Report

/-- The lines of a run for the operator. -/
def lines (report : Report) : List String :=
  report.journal.lines true .info ++ (report.failure.map Failure.lines).getD []

/-- The exit code of a run. -/
def exitCode (report : Report) : Nat := if report.failure.isSome then 1 else 0

end Report

/-- Does a whole run, given what is stored at the path of the configuration. -/
def run (arguments : Arguments) (stored : Config.Stored) : Report :=
  let path := arguments.value .config
  let banner : Notice := ⟨.info, "=== FinchControl v" ++ version ++ " ==="⟩
  let (loaded, notices) := Config.load path stored
  let notices := banner :: notices
  let opened := notices.map Record.notice
  match loaded with
  | .error error =>
    ⟨opened, some ⟨some ("loading " ++ path), (Error.config error).message⟩⟩
  | .ok config =>
    match Session.open? config with
    | .error error => ⟨opened, some ⟨none, error.message⟩⟩
    | .ok session =>
      match drive arguments (deskOf arguments session notices) with
      | .ok () desk => ⟨desk.world.history, none⟩
      | .error failure desk => ⟨desk.world.history, some failure⟩

/-- All that a command line gives to the outside. -/
structure Outcome where
  exitCode : Nat
  output : String
  /-- The run behind the exit code; requests and misuse have none. -/
  report : Option Report

/-- The options in short. -/
def usage : String :=
  "Usage: finchcontrol [OPTIONS]\n" ++
  String.join (Setting.all.map fun setting => "  --" ++ setting.name ++ " <VALUE>\n") ++
  "  --realtime\n  -h, --help\n  -V, --version\n"

/-- Answers a request, given what is stored at the path that a run names. -/
def answer (stored : Config.Stored) : Request → Outcome
  | .version => ⟨0, "finchcontrol " ++ version ++ "\n", none⟩
  | .help => ⟨0, usage, none⟩
  | .misuse => ⟨2, "", none⟩
  | .run arguments =>
    let report := run arguments stored
    ⟨report.exitCode, "", some report⟩

end Rover.CommandLine
