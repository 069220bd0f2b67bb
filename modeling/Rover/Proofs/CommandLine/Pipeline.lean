import Rover.Proofs.CommandLine.Preparation
import Rover.Proofs.CommandLine.Words
import Rover.Proofs.Session.Completion
import Rover.Proofs.Session.Opening

/-!
# The order of a run

A run of a command line goes through its stages in one order, and what it is given decides how far
it comes. A robot that was reached is brought to rest and left on every path, also when the settings
of the monitor are only then found to be invalid.
-/

namespace Rover.CommandLine

/-! ## What is watched -/

/-- What a run is asked to watch, if anything, with all that is needed for it understood. -/
inductive Arguments.Asks (arguments : Arguments) :
    Option (Monitor.Target × MonitorSettings) → Prop
  | nothing (unasked : arguments.value? .monitor = none) : Asks arguments none
  | light {sensor : LightSensor} {settings : MonitorSettings}
      (asked : arguments.value? .monitor = some "light")
      (set : MonitorSettings.ofEntries (arguments.value .range) (arguments.value .threshold)
        (arguments.value .duration) = .ok settings)
      (chosen : LightSensor.ofEntry (arguments.value .sensor) = .ok sensor) :
      Asks arguments (some (.light sensor, settings))
  | temperature {settings : MonitorSettings}
      (asked : arguments.value? .monitor = some "temperature")
      (set : MonitorSettings.ofEntries (arguments.value .range) (arguments.value .threshold)
        (arguments.value .duration) = .ok settings) :
      Asks arguments (some (.temperature, settings))

/-- Nothing is watched if nothing is asked for or it is not understood. Otherwise one watch comes to
its end and is told to the log. -/
inductive Watches (arguments : Arguments) (tone : AlarmTone) (before : World SimulatedRobot Pacer) :
    World SimulatedRobot Pacer → Prop
  | nothing (unasked : ∀ target settings, ¬arguments.Asks (some (target, settings))) :
      Watches arguments tone before before
  | watched {target : Monitor.Target} {settings : MonitorSettings} {report : MonitorReport}
      {between : World SimulatedRobot Pacer} (asks : arguments.Asks (some (target, settings)))
      (ran : target.watch tone settings before = .ok report between) (told : Notice) :
      Watches arguments tone before (between.record (.notice told))

namespace Stage

variable {α : Type} {operation : Operation SimulatedRobot Pacer α} {before after : CommandDesk}

theorem operate_of_ok {value : α} (ran : operation before = .ok value after)
    (context : Option String) : operate context operation before = .ok value after := by
  simp only [operate, ran]

theorem outcome_of_ok {stage : Stage α} {value : α} (ran : stage before = .ok value after) :
    outcome stage before = .ok (.ok value) after := by
  simp only [outcome, ran]

theorem outcome_of_error {stage : Stage α} {failure : Failure}
    (ran : stage before = .error failure after) :
    outcome stage before = .ok (.error failure) after := by
  simp only [outcome, ran]

/-- What comes after a stage that succeeded has the outcome. -/
theorem outcome_bind_of_ok {β : Type} {stage : Stage α} {next : α → Stage β} {value : α}
    (ran : stage before = .ok value after) :
    outcome (stage >>= next) before = outcome (next value) after := by
  simp only [outcome, Act.bind_of_ok ran]

end Stage

variable {arguments : Arguments}

theorem runMonitor_of_asks {asked : Option (Monitor.Target × MonitorSettings)}
    (asks : arguments.Asks asked) (desk : CommandDesk) (linked : desk.world.robot.Linked) :
    ∃ after, runMonitor arguments desk = .ok () ⟨desk.session, after⟩ ∧
      Watches arguments desk.session.alarmTone desk.world after ∧ after.robot.Linked := by
  rw [runMonitor]
  cases asks with
  | nothing unasked =>
      simp only [unasked]
      refine ⟨desk.world, rfl, .nothing ?_, linked⟩
      intro target settings asks
      cases asks with
      | light asked | temperature asked =>
          rw [unasked] at asked
          cases asked
  | @light sensor settings asked set chosen =>
      obtain ⟨report, between, ran, still⟩ :=
        Monitor.watch_of_linked desk.session.alarmTone settings (.light sensor) linked
      have watched : Stage.operate none (Session.monitorLight sensor settings) desk =
          .ok report ⟨desk.session, between⟩ := Stage.operate_of_ok (Operation.act_of_ok ran) none
      simp only [asked, set, chosen]
      exact ⟨_, Act.bind_of_ok watched, .watched (.light asked set chosen) ran _, still⟩
  | @temperature settings asked set =>
      obtain ⟨report, between, ran, still⟩ :=
        Monitor.watch_of_linked desk.session.alarmTone settings .temperature linked
      have watched : Stage.operate none (Session.monitorTemperature settings) desk =
          .ok report ⟨desk.session, between⟩ := Stage.operate_of_ok (Operation.act_of_ok ran) none
      simp only [asked, set]
      exact ⟨_, Act.bind_of_ok watched, .watched (.temperature asked set) ran _, still⟩

/-- Invalid settings are found only here, and then nothing is done. -/
theorem runMonitor_of_not_asks (allowed : arguments.Allowed)
    (refused : ¬∃ asked, arguments.Asks asked) (desk : CommandDesk) :
    ∃ failure, runMonitor arguments desk = .error failure desk := by
  rw [runMonitor]
  cases asked : arguments.value? .monitor with
  | none => exact absurd ⟨_, .nothing asked⟩ refused
  | some kind =>
      dsimp only
      cases set : MonitorSettings.ofEntries (arguments.value .range) (arguments.value .threshold)
          (arguments.value .duration) with
      | error error => exact ⟨_, rfl⟩
      | ok settings =>
          rcases allowed.monitor_cases asked with rfl | rfl
          · cases chosen : LightSensor.ofEntry (arguments.value .sensor) with
            | error error => exact ⟨_, rfl⟩
            | ok sensor => exact absurd ⟨_, .light asked set chosen⟩ refused
          · exact absurd ⟨_, .temperature asked set⟩ refused

/-- Whether or not it is understood what is to be watched, the robot can be left afterwards. -/
theorem outcome_runMonitor (allowed : arguments.Allowed) (desk : CommandDesk)
    (linked : desk.world.robot.Linked) :
    ∃ driven after,
      Stage.outcome (runMonitor arguments) desk = .ok driven ⟨desk.session, after⟩ ∧
      Watches arguments desk.session.alarmTone desk.world after ∧ after.robot.Linked ∧
      (driven = .ok () ↔ ∃ asked, arguments.Asks asked) := by
  by_cases understood : ∃ asked, arguments.Asks asked
  · obtain ⟨asked, asks⟩ := understood
    obtain ⟨after, ran, watches, still⟩ := runMonitor_of_asks asks desk linked
    exact ⟨_, after, Stage.outcome_of_ok ran, watches, still, iff_of_true rfl ⟨asked, asks⟩⟩
  · obtain ⟨failure, failed⟩ := runMonitor_of_not_asks allowed understood desk
    refine ⟨_, desk.world, Stage.outcome_of_error failed, .nothing ?_, linked,
      iff_of_false (by rintro ⟨⟩) understood⟩
    exact fun target settings asks => understood ⟨_, asks⟩

/-! ## What is done with the robot -/

/-- An empty program is not run, and any other one is run to its end and followed by the reset. -/
inductive Performs (session : Session) (before after : World SimulatedRobot Pacer) : Prop
  | nothing (empty : session.program = []) (same : after = before)
  | whole (given : session.program ≠ [])
      (completed : ((session.program.score session.holds session.parameters).play
        before.robot).failure = none)
      (leads : World.Leads (session.runDeeds before.robot) before after)

theorem runProgram_of_linked (desk : CommandDesk) (linked : desk.world.robot.Linked) :
    ∃ after, runProgram desk = .ok () ⟨desk.session, after⟩ ∧
      Performs desk.session desk.world after ∧ after.robot.Linked := by
  cases listed : desk.session.program with
  | nil =>
      refine ⟨desk.world, ?_, .nothing listed rfl, linked⟩
      change (if !desk.session.program.isEmpty then _ else pure () : Stage Unit) desk = _
      rw [listed]
      rfl
  | cons command rest =>
      have given : desk.session.program ≠ [] := by
        rw [listed]
        exact List.cons_ne_nil command rest
      obtain ⟨completed, between, ran, leads, still, -⟩ :=
        Session.runProgram_of_linked desk linked
      let told : Notice := ⟨.info,
        "Program complete: " ++ " ".intercalate (desk.session.program.map Command.name)⟩
      refine ⟨between.record (.notice told), ?_, .whole given completed (leads.told told), still⟩
      change (if !desk.session.program.isEmpty then _ else pure () : Stage Unit) desk = _
      rw [if_pos (by rw [listed]; rfl), Act.bind_of_ok (Stage.operate_of_ok ran none)]
      rfl

theorem disconnect_of_linked (desk : CommandDesk) (connected : desk.session.connected = true)
    (linked : desk.world.robot.Linked) :
    ∃ after, disconnect desk = .ok () ⟨{ desk.session with connected := false }, after⟩ ∧
      World.Leads Session.leaveDeeds desk.world after := by
  obtain ⟨after, closed, leads, -⟩ := Session.disconnect_of_linked desk connected linked
  refine ⟨after, ?_, leads⟩
  rw [disconnect, Act.bind_of_ok (Stage.outcome_of_ok (Stage.operate_of_ok closed none))]
  rfl

/-- How a run ends once the link is closed again. -/
def ended (driven : Except Failure Unit) (desk : CommandDesk) :
    EStateM.Result Failure CommandDesk Unit :=
  match driven with
  | .ok () => .ok () desk
  | .error failure => .error failure desk

/-- Once the robot is reached, the link is closed again whatever became of the run. -/
theorem drive_of_reached {desk entered loaded opened left closed : CommandDesk}
    {driven : Except Failure Unit} (enters : enterParameters arguments desk = .ok () entered)
    (loads : loadProgram arguments entered = .ok () loaded)
    (reaches : Session.connect loaded = .ok true opened)
    (ran : Stage.outcome (runProgram >>= fun _ => runMonitor arguments) opened = .ok driven left)
    (leaves : disconnect left = .ok () closed) :
    drive arguments desk = ended driven closed := by
  rw [drive, Act.bind_of_ok enters, Act.bind_of_ok loads,
    Act.bind_of_ok (Stage.operate_of_ok reaches none)]
  change (Stage.outcome (runProgram >>= fun _ => runMonitor arguments) >>= _) opened = _
  rw [Act.bind_of_ok ran, Act.bind_of_ok leaves]
  cases driven <;> rfl

/-- The session of a run once its parameters and its program are entered. -/
def readySession (arguments : Arguments) (config : Config) (parameters : Parameters) : Session :=
  { Session.start config parameters with program := arguments.program }

/-- The session of a run while the robot is connected. -/
def joinedSession (arguments : Arguments) (config : Config) (parameters : Parameters) : Session :=
  { readySession arguments config parameters with connected := true }

/-- The course of a run that comes to the robot: it is connected on the first attempt, the program
is run, what is asked for is watched, and at last the robot is brought to rest and left. -/
inductive Course (arguments : Arguments) (config : Config) (parameters : Parameters)
    (start last : World SimulatedRobot Pacer) : Prop
  | stages {reached performed watched : World SimulatedRobot Pacer}
      (connects : World.Leads (Session.reachDeeds config) start reached)
      (performs : Performs (joinedSession arguments config parameters) reached performed)
      (watches : Watches arguments (.ofConfig config) performed watched)
      (leaves : World.Leads Session.leaveDeeds watched last)

/-- Once a run comes to the robot, it takes its whole course, and it succeeds just if it is
understood what is to be watched. -/
theorem drive_of_prepared {config : Config} {parameters : Parameters}
    (allowed : arguments.Allowed) (valid : config.validate = .ok ())
    (sets : arguments.Sets config parameters)
    (recognized : Program.Recognized arguments.programEntries) (notices : List Notice) :
    let start := deskOf arguments (.start config (initialParameters config)) notices
    ∃ entry driven last, entry.robot = start.world.robot ∧
      entry.history.deeds = start.world.history.deeds ∧
      Course arguments config parameters entry last.world ∧
      drive arguments start = ended driven last ∧
      (driven = .ok () ↔ ∃ asked, arguments.Asks asked) := by
  intro start
  obtain ⟨-, -, -, tries⟩ := Config.validate_eq_ok_iff.mp valid
  obtain ⟨toldFirst, enters⟩ := enterParameters_of_sets valid start rfl sets
  obtain ⟨toldNext, loads⟩ := loadProgram_of_recognized
    ⟨{ start.session with parameters }, start.world.tell toldFirst⟩ rfl recognized
  let entry := (start.world.tell toldFirst).tell toldNext
  have robot : entry.robot = start.world.robot := by rw [World.robot_tell, World.robot_tell]
  have deeds : entry.history.deeds = start.world.history.deeds := by simp [entry]
  obtain ⟨reached, connected, connects, linked⟩ := Session.connect_of_within
    ⟨readySession arguments config parameters, entry⟩ (by rw [robot]; rfl)
    (by rw [robot]; rfl) tries
  obtain ⟨performed, ran, performs, linked⟩ := runProgram_of_linked
    ⟨joinedSession arguments config parameters, reached⟩ linked
  obtain ⟨driven, watched, monitored, watches, linked, understood⟩ := outcome_runMonitor allowed
    ⟨joinedSession arguments config parameters, performed⟩ linked
  obtain ⟨last, closed, leaves⟩ := disconnect_of_linked
    ⟨joinedSession arguments config parameters, watched⟩ rfl linked
  have whole : Stage.outcome (runProgram >>= fun _ => runMonitor arguments) _ = _ :=
    (Stage.outcome_bind_of_ok ran).trans monitored
  exact ⟨entry, driven, _, robot, deeds, .stages connects performs watches leaves,
    drive_of_reached enters loads connected whole closed, understood⟩

/-- If the parameters or the program are refused, nothing is done with the robot. -/
theorem drive_of_refused {config : Config} (valid : config.validate = .ok ())
    (refused : ¬((∃ parameters, arguments.Sets config parameters) ∧
      Program.Recognized arguments.programEntries)) (notices : List Notice) :
    let start := deskOf arguments (.start config (initialParameters config)) notices
    ∃ failure last, drive arguments start = .error failure last ∧
      last.world.history.deeds = start.world.history.deeds := by
  intro start
  by_cases entered : ∃ parameters, arguments.Sets config parameters
  · obtain ⟨parameters, sets⟩ := entered
    obtain ⟨told, enters⟩ := enterParameters_of_sets valid start rfl sets
    let last : CommandDesk := ⟨{ start.session with parameters }, start.world.tell told⟩
    obtain ⟨failure, failed⟩ := loadProgram_of_not_recognized last
      fun recognized => refused ⟨⟨parameters, sets⟩, recognized⟩
    refine ⟨failure, last, ?_, ?_⟩
    · rw [drive, Act.bind_of_ok enters, Act.bind_of_error failed]
    · simp [last]
  · obtain ⟨failure, failed⟩ := enterParameters_of_not_sets valid start rfl entered
    exact ⟨failure, start, by rw [drive, Act.bind_of_error failed], rfl⟩

/-! ## Whole runs -/

/-- What has to hold for a run to come to the robot: the configuration loads, the parameters are
valid with the entered ones put in, and all entries of the program that count are recognized. -/
structure Arguments.Prepares (arguments : Arguments) (stored : Config.Stored) (config : Config)
    (parameters : Parameters) : Prop where
  loads : (Config.load (arguments.value .config) stored).1 = .ok config
  sets : arguments.Sets config parameters
  recognizes : Program.Recognized arguments.programEntries

/-- The report of a run that got as far as its session. -/
def reportOf : EStateM.Result Failure CommandDesk Unit → Report
  | .ok () desk => ⟨desk.world.history, none⟩
  | .error failure desk => ⟨desk.world.history, some failure⟩

theorem run_of_load_error {stored : Config.Stored} {error : ConfigError}
    (fails : (Config.load (arguments.value .config) stored).1 = .error error) :
    (run arguments stored).exitCode = 1 ∧ (run arguments stored).journal.deeds = [] := by
  rw [run]
  simp only [fails]
  exact ⟨rfl, Journal.deeds_notices _⟩

theorem run_of_load_ok {stored : Config.Stored} {config : Config}
    (loads : (Config.load (arguments.value .config) stored).1 = .ok config) :
    ∃ notices, run arguments stored = reportOf
      (drive arguments (deskOf arguments (.start config (initialParameters config)) notices)) := by
  have opens : Session.open? config = .ok (.start config (initialParameters config)) :=
    Session.open_of_valid (Config.validate_of_load loads)
  let banner : Notice := ⟨.info, "=== FinchControl v" ++ version ++ " ==="⟩
  refine ⟨banner :: (Config.load (arguments.value .config) stored).2, ?_⟩
  rw [run]
  simp only [loads, opens]
  split
  next ran => rw [ran]; rfl
  next ran => rw [ran]; rfl

theorem exitCode_reportOf_ended (driven : Except Failure Unit) (desk : CommandDesk) :
    (reportOf (ended driven desk)).journal = desk.world.history ∧
      (reportOf (ended driven desk)).exitCode = if driven = .ok () then 0 else 1 := by
  cases driven with
  | ok => exact ⟨rfl, rfl⟩
  | error failure => exact ⟨rfl, (if_neg (by rintro ⟨⟩)).symm⟩

theorem run_of_prepared {stored : Config.Stored} {config : Config} {parameters : Parameters}
    (allowed : arguments.Allowed) (simulated : arguments.realtime = false)
    (prepares : arguments.Prepares stored config parameters) :
    let report := run arguments stored
    (∃ start last : World SimulatedRobot Pacer, start.robot = {} ∧ start.history.deeds = [] ∧
      Course arguments config parameters start last ∧ last.history = report.journal) ∧
    ∃ driven : Except Failure Unit, report.exitCode = (if driven = .ok () then 0 else 1) ∧
      (driven = .ok () ↔ ∃ asked, arguments.Asks asked) := by
  intro report
  obtain ⟨notices, reports⟩ := run_of_load_ok prepares.loads
  obtain ⟨entry, driven, last, robot, deeds, course, drives, understood⟩ := drive_of_prepared
    allowed (Config.validate_of_load prepares.loads) prepares.sets prepares.recognizes notices
  rw [drives] at reports
  obtain ⟨journal, exit⟩ := exitCode_reportOf_ended driven last
  rw [← reports] at journal exit
  have fresh : entry.robot = {} :=
    robot.trans (congrArg (fun realtime => ({ realtime } : SimulatedRobot)) simulated)
  exact ⟨⟨entry, last.world, fresh, deeds.trans (Journal.deeds_notices notices), course,
    journal.symm⟩, driven, exit, understood⟩

theorem run_of_unprepared {stored : Config.Stored}
    (refused : ¬∃ config parameters, arguments.Prepares stored config parameters) :
    (run arguments stored).exitCode = 1 ∧ (run arguments stored).journal.deeds = [] := by
  cases loads : (Config.load (arguments.value .config) stored).1 with
  | error error => exact run_of_load_error loads
  | ok config =>
      obtain ⟨notices, reports⟩ := run_of_load_ok loads
      obtain ⟨failure, last, drives, deeds⟩ := drive_of_refused (Config.validate_of_load loads)
        (fun ⟨⟨parameters, sets⟩, recognizes⟩ =>
          refused ⟨config, parameters, loads, sets, recognizes⟩) notices
      rw [reports, drives]
      exact ⟨rfl, deeds.trans (Journal.deeds_notices notices)⟩

/-- A command line that asks for a run without real time goes through its stages in one order,
whatever is entered and whatever is stored. The exit code tells just whether all of it was
understood. If the configuration, the parameters or the program are not, the robot is not even
looked for. If only what is to be watched is not, the run takes its whole course but for the watch.
-/
theorem answer_follows_pipeline (words : List String) (stored : Config.Stored)
    {arguments : Arguments} (parsed : Request.parse words = .run arguments)
    (simulated : arguments.realtime = false) :
    ∃ report, answer stored (Request.parse words) = ⟨report.exitCode, "", some report⟩ ∧
      (report.exitCode = 0 ∨ report.exitCode = 1) ∧
      (report.exitCode = 0 ↔
        (∃ config parameters, arguments.Prepares stored config parameters) ∧
          ∃ asked, arguments.Asks asked) ∧
      ((¬∃ config parameters, arguments.Prepares stored config parameters) →
        report.journal.calls = [] ∧ report.journal.events = []) ∧
      ∀ config parameters, arguments.Prepares stored config parameters →
        ∃ start last : World SimulatedRobot Pacer,
          start.robot = {} ∧ start.history.deeds = [] ∧
          Course arguments config parameters start last ∧ last.history = report.journal := by
  have allowed : arguments.Allowed := Request.allowed_of_parse parsed
  rw [parsed]
  refine ⟨run arguments stored, rfl, ?_⟩
  by_cases prepared : ∃ config parameters, arguments.Prepares stored config parameters
  · obtain ⟨config, parameters, prepares⟩ := prepared
    obtain ⟨-, driven, exit, understood⟩ := run_of_prepared allowed simulated prepares
    refine ⟨?_, ?_, fun refused => absurd ⟨config, parameters, prepares⟩ refused,
      fun config parameters prepares => (run_of_prepared allowed simulated prepares).1⟩
    · rw [exit]
      split
      · exact .inl rfl
      · exact .inr rfl
    · rw [exit, ← understood]
      split
      next finished => exact iff_of_true rfl ⟨⟨config, parameters, prepares⟩, finished⟩
      next failed => exact iff_of_false (by decide) fun both => failed both.2
  · obtain ⟨exit, deeds⟩ := run_of_unprepared prepared
    refine ⟨.inr exit, ?_, fun _ => Journal.calls_events_of_deeds deeds,
      fun config parameters prepares => absurd ⟨config, parameters, prepares⟩ prepared⟩
    rw [exit]
    exact iff_of_false (by decide) fun both => prepared both.1

/-- That there is no such sensor is found only once the program was run, and the robot is still
left. -/
theorem answer_follows_pipeline_unknown_sensor :
    let words := ["--program", "moveforward", "--monitor", "light", "--sensor", "top"]
    ∃ report, answer .absent (Request.parse words) = ⟨1, "", some report⟩ ∧
      Session.leaveDeeds <:+ report.journal.deeds := by
  intro words
  let arguments : Arguments :=
    ⟨[(.program, "moveforward"), (.monitor, "light"), (.sensor, "top")], false⟩
  have parsed : Request.parse words = .run arguments := by decide +kernel
  obtain ⟨report, answers, codes, exit, -, course⟩ :=
    answer_follows_pipeline words .absent parsed rfl
  have refused : ¬∃ asked, arguments.Asks asked := by
    rintro ⟨_, asks⟩
    cases asks with
    | nothing unasked => cases unasked
    | temperature asked => exact absurd asked (by decide)
    | light asked set chosen =>
        have unknown : (LightSensor.ofEntry "top").toOption = none := by decide +kernel
        change LightSensor.ofEntry "top" = _ at chosen
        rw [chosen] at unknown
        cases unknown
  have failed : report.exitCode = 1 := codes.resolve_left fun zero => refused (exit.mp zero).2
  have read : Program.ofText "moveforward" = .ok [.moveForward] := by decide +kernel
  have recognized : Program.Recognized arguments.programEntries :=
    (Program.ofText_eq_ok_iff.mp read).1
  obtain ⟨start, last, -, -, ⟨-, -, -, leaves⟩, journal⟩ :=
    course .standard (initialParameters .standard) ⟨rfl, ⟨rfl, rfl, rfl⟩, recognized⟩
  rw [failed] at answers
  refine ⟨report, answers, ?_⟩
  rw [← journal, leaves.deeds]
  exact List.suffix_append _ _

end Rover.CommandLine
