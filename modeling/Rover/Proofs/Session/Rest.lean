import Rover.Proofs.Program.Recipe
import Rover.Proofs.Robot.Link

/-!
# Runs end at rest

A run of the program is followed by the reset, whatever became of it. The two can fail
independently: the failure of the program is the result if there is one, and a failure of the
reset only if the program came to its end.
-/

namespace Rover

namespace Program

theorem not_reports_robotReset_cues {holds : Holds} {parameters : Parameters}
    {command : Command} {cue : Cue} (inside : cue ∈ cues holds parameters command) :
    ¬cue.Reports .robotReset := by
  have silent : ∀ script : List Call, cue ∈ script.map Cue.silent → ¬cue.Reports .robotReset := by
    intro script inside
    rcases List.mem_map.mp inside with ⟨call, -, rfl⟩
    simp [Cue.silent]
  cases command with
  | getTemperature =>
      rcases List.mem_flatMap.mp inside with ⟨index, -, sampled⟩
      rcases List.mem_cons.mp sampled with rfl | waited
      · simp
      · exact silent [_] waited
  | _ => exact silent _ inside

/-- Bringing the robot to rest is left to the caller of a run, and so is reporting it. -/
theorem not_reports_robotReset {holds : Holds} {parameters : Parameters} {program : Program}
    {index : Nat} {cue : Cue} (inside : cue ∈ scoreFrom holds parameters program index) :
    ¬cue.Reports .robotReset := by
  induction program generalizing index with
  | nil => cases inside
  | cons command rest ih =>
      rcases List.mem_append.mp inside with now | later
      · exact not_reports_robotReset_cues now
      · rcases List.mem_cons.mp later with rfl | further
        · rw [Cue.Reports, report]
          split <;> exact Event.noConfusion
        · exact ih further

end Program

namespace Session

/-- The calls of a reset. -/
def restCalls : List Call := [.setMotors 0 0, .noteOff, .setLed ⟨0, 0, 0⟩]

/-- The reset is reported once all of its calls succeeded. -/
def restScore : Score := restCalls.map .silent ++ [.report .robotReset]

theorem calls_restScore : Score.calls restScore = restCalls := rfl

variable {ρ τ : Type} [Robot ρ]

theorem follows_quiesce :
    (Act.quiesce : Act ρ τ Unit).Follows (restCalls.map .silent) fun _ => True := by
  apply Act.follows_silent_bind
  intro _
  apply Act.follows_silent_bind
  intro _
  exact Act.follows_call _

theorem follows_quiesceAndReport :
    (quiesceAndReport : Act ρ τ Unit).Follows restScore (· = ()) :=
  Act.follows_bind follows_quiesce fun _ _ => (Act.follows_emit _).weaken fun _ _ => rfl

/-- A reset leaves its calls and, if it came to its end, the report. -/
theorem records_play_restScore (robot : ρ) :
    (restScore.play robot).records =
      (restScore.play robot).records.attempts.map Record.ofAttempt ++
        if (restScore.play robot).failure = none then [.event .robotReset] else [] := by
  have silent := Score.records_play_silent restCalls robot
  cases completed : (Score.play (restCalls.map .silent) robot).failure with
  | none =>
      rw [restScore, Score.play_append_of_none completed]
      simpa [Score.play] using silent
  | some error =>
      rw [restScore, Score.play_append_of_some completed, completed]
      simpa using silent

/-- Only a reset that came to its end is reported. -/
theorem events_play_restScore (robot : ρ) :
    (restScore.play robot).records.events =
      if (restScore.play robot).failure = none then [.robotReset] else [] := by
  rw [records_play_restScore, Journal.events_append, Journal.events_map_ofAttempt, List.nil_append]
  split <;> rfl

/-- At the far end of any link the robot is at rest after a reset that came to its end,
whatever it did before. -/
theorem isQuiescent_of_rested {core : ρ → SimulatedRobot} (link : IsLink core) {robot : ρ}
    (rested : (restScore.play robot).failure = none) :
    (core (restScore.play robot).robot).isQuiescent = true := by
  rw [restScore] at rested ⊢
  cases completed : (Score.play (restCalls.map .silent) robot).failure with
  | none =>
      rw [Score.play_append_of_none completed]
      change (core (Score.play (restCalls.map .silent) robot).robot).isQuiescent = true
      rw [link.core_play_of_none completed]
      rfl
  | some error =>
      rw [Score.play_append_of_some completed, completed] at rested
      cases rested

/-- What an operator is told of a run: of two failures the one of the program. -/
def settled (ran rested : Option DeviceError) (trace : List Command) (after : Desk ρ τ) :
    EStateM.Result Error (Desk ρ τ) (List Command) :=
  match ran, rested with
  | some error, _ => .error (.device error) after
  | none, some error => .error (.device error) after
  | none, none => .ok trace after

/-- The failures are told to the log after the reset, and nothing else is done there. -/
theorem runProgram_of_results {desk : Desk ρ τ} {ran rested : Played ρ}
    {between after : World ρ τ}
    (run : desk.session.program.run desk.session.holds desk.session.parameters desk.world =
      ran.result desk.session.program between)
    (rest : quiesceAndReport between = rested.result () after) :
    ∃ notices : List Notice, Session.runProgram desk =
      settled ran.failure rested.failure desk.session.program
        ⟨desk.session, after.tell notices⟩ := by
  cases ranFailure : ran.failure with
  | none =>
      rw [Played.result_of_none ranFailure] at run
      refine ⟨[], ?_⟩
      change Operation.act (Act.outcome _ >>= _) desk = _
      rw [Operation.act_eq, Act.bind_of_ok (Act.outcome_of_ok run)]
      cases restFailure : rested.failure with
      | none =>
          rw [Played.result_of_none restFailure] at rest
          rw [Act.bind_of_ok (Act.outcome_of_ok rest)]
          rfl
      | some error =>
          rw [Played.result_of_some restFailure] at rest
          rw [Act.bind_of_ok (Act.outcome_of_error rest)]
          rfl
  | some error =>
      rw [Played.result_of_some ranFailure] at run
      let aborted : Notice := ⟨.error, s!"Session: program aborted: {error.message}"⟩
      cases restFailure : rested.failure with
      | none =>
          rw [Played.result_of_none restFailure] at rest
          refine ⟨[aborted], ?_⟩
          change Operation.act (Act.outcome _ >>= _) desk = _
          rw [Operation.act_eq, Act.bind_of_ok (Act.outcome_of_error run),
            Act.bind_of_ok (Act.outcome_of_ok rest)]
          rfl
      | some second =>
          rw [Played.result_of_some restFailure] at rest
          refine ⟨[aborted, ⟨.error,
            s!"Session: reset after abort failed: {(Error.device second).message}"⟩], ?_⟩
          change Operation.act (Act.outcome _ >>= _) desk = _
          rw [Operation.act_eq, Act.bind_of_ok (Act.outcome_of_error run),
            Act.bind_of_ok (Act.outcome_of_error rest)]
          rfl

omit [Robot ρ] in
theorem leaves_settled {ran rested : Option DeviceError} {trace : List Command}
    {before after : Desk ρ τ} {operation : Operation ρ τ (List Command)}
    (result : operation before = settled ran rested trace after) :
    Act.leaves operation before = after := by
  cases ran with
  | some error => exact Act.leaves_of_error result
  | none =>
      cases rested with
      | some error => exact Act.leaves_of_error result
      | none => exact Act.leaves_of_ok result

/-- The program is played from the world that is given, and then the reset from the one that the
program leaves. -/
theorem exists_carries_runProgram (desk : Desk ρ τ) :
    let program := desk.session.program
    let holds := desk.session.holds
    let parameters := desk.session.parameters
    let ran := (program.score holds parameters).play desk.world.robot
    let rested := restScore.play ran.robot
    ∃ between after,
      program.run holds parameters desk.world = ran.result program between ∧
      ran.Carries desk.world between ∧ rested.Carries between after ∧
      Session.runProgram desk =
        settled ran.failure rested.failure program ⟨desk.session, after⟩ := by
  intro program holds parameters ran rested
  obtain ⟨between, run, carries⟩ :=
    (Program.follows_run holds parameters program).result_eq desk.world
  obtain ⟨after, rest, further⟩ :=
    (follows_quiesceAndReport (ρ := ρ) (τ := τ)).result_eq between
  rw [carries.robot] at rest further
  obtain ⟨notices, result⟩ := runProgram_of_results run rest
  exact ⟨between, after.tell notices, run, carries, further.tell notices, result⟩

/-- Whatever the result, a run leaves the world as the score of the program does and then the one
of the reset. -/
theorem leaves_runProgram (desk : Desk ρ τ) :
    let program := desk.session.program
    let ran :=
      (program.score desk.session.holds desk.session.parameters).play desk.world.robot
    (Act.leaves runProgram desk).session = desk.session ∧
      ∃ between, ran.Carries desk.world between ∧
        (restScore.play ran.robot).Carries between (Act.leaves runProgram desk).world := by
  intro program ran
  obtain ⟨between, after, -, carries, further, result⟩ := exists_carries_runProgram desk
  rw [leaves_settled result]
  exact ⟨rfl, between, carries, further⟩

/-- A run of the program is always followed by one reset, and nothing is done after it. The
calls are those of the program up to its first failure and then those of the reset up to its
own. The trace is the result only if neither failed, and a failure of the reset never hides one
of the program. The reset is reported just if it came to its end, as the last event, and then
the robot at the far end of any link is at rest. The session stays as it is. -/
theorem runProgram_rests_last (desk : Desk ρ τ) :
    let program := desk.session.program
    let holds := desk.session.holds
    let parameters := desk.session.parameters
    let ran := (program.score holds parameters).play desk.world.robot
    let rested := restScore.play ran.robot
    ∃ between after,
      program.run holds parameters desk.world = ran.result program between ∧
      ran.Carries desk.world between ∧ rested.Carries between after ∧
      Session.runProgram desk =
        settled ran.failure rested.failure program ⟨desk.session, after⟩ ∧
      Tried (program.flatMap (Program.recipe holds parameters)) ran.records.attempts
        ran.failure ∧
      Tried restCalls rested.records.attempts rested.failure ∧
      .robotReset ∉ ran.records.events ∧
      rested.records.events = (if rested.failure = none then [.robotReset] else []) ∧
      (rested.failure = none → ∀ core : ρ → SimulatedRobot, IsLink core →
        (core after.robot).isQuiescent = true) := by
  intro program holds parameters ran rested
  obtain ⟨between, after, run, carries, further, result⟩ := exists_carries_runProgram desk
  refine ⟨between, after, run, carries, further, result, ?_, ?_, ?_, events_play_restScore _, ?_⟩
  · have tried := Score.tried_play (program.score holds parameters) desk.world.robot
    rwa [Program.score, Program.calls_scoreFrom] at tried
  · have tried := Score.tried_play restScore ran.robot
    rwa [calls_restScore] at tried
  · intro happened
    rcases Score.reports_of_mem_play happened with ⟨cue, inside, reports⟩
    exact Program.not_reports_robotReset inside reports
  · intro completed core link
    rw [further.robot]
    exact isQuiescent_of_rested link completed

end Session

end Rover
