import Rover.Proofs.Robot.Faultless
import Rover.Proofs.Session.Disconnect

/-!
# Requests that come to their end

With the link open and no fault every request comes to its end, and its deeds are fixed but for what
the sensors read. The robot is as ready for the next request as it was for this one.
-/

namespace Rover

open SimulatedRobot

/-- What is told to the log afterwards does not count. -/
theorem World.Leads.told {ρ τ : Type} [Robot ρ] {gain : Journal} {before after : World ρ τ}
    (leads : World.Leads gain before after) (told : Notice) :
    World.Leads gain before (after.record (.notice told)) := by
  rw [← List.append_nil gain]
  exact leads.trans (.notice told after)

variable {τ : Type}

/-- With the link open and no fault an action that follows a score gives its value. -/
theorem Act.Follows.of_linked {α : Type} {action : Act SimulatedRobot τ α} {score : Score}
    {gives : α → Prop} (follows : action.Follows score gives)
    (keeps : ∀ call ∈ score.calls, call.KeepsLink) {before : World SimulatedRobot τ}
    (linked : before.robot.Linked) :
    ∃ value after, action before = .ok value after ∧ gives value ∧
      World.Leads (score.play before.robot).records before after ∧ after.robot.Linked := by
  obtain ⟨completed, still⟩ := linked.play keeps
  obtain ⟨after, carries, ends⟩ := follows before
  rw [completed] at ends
  obtain ⟨value, given, ran⟩ := ends
  refine ⟨value, after, ran, given, carries.leads, ?_⟩
  rw [carries.robot]
  exact still

/-- If nothing of it is reported, its deeds are just its calls. -/
theorem Act.Follows.of_linked_script {α : Type} {action : Act SimulatedRobot τ α}
    {script : List Call} {gives : α → Prop} (follows : action.Follows (script.map .silent) gives)
    (keeps : ∀ call ∈ script, call.KeepsLink) {before : World SimulatedRobot τ}
    (linked : before.robot.Linked) :
    ∃ value after, action before = .ok value after ∧ gives value ∧
      World.Leads (Journal.succeeded script) before after ∧ after.robot.Linked := by
  rw [← Score.calls_silent script] at keeps
  rw [← Score.records_play_of_none (linked.play keeps).1]
  exact follows.of_linked keeps linked

namespace Session

/-- The deeds of a reset that comes to its end. -/
def restDeeds : Journal := Journal.succeeded restCalls ++ [.event .robotReset]

theorem records_rest {robot : SimulatedRobot} (linked : robot.Linked) :
    (restScore.play robot).records = restDeeds := by
  have keeps : ∀ call ∈ Score.calls (restCalls.map Cue.silent), call.KeepsLink := by
    rw [Score.calls_silent]
    exact keepsLink_restCalls
  have completed := (linked.play keeps).1
  rw [restScore, Score.play_append_of_none completed, Played.records_precededBy,
    Score.records_play_of_none completed]
  rfl

theorem quiesceAndReport_of_linked {before : World SimulatedRobot τ}
    (linked : before.robot.Linked) :
    ∃ after, quiesceAndReport before = .ok () after ∧ World.Leads restDeeds before after ∧
      after.robot.Linked ∧ after.robot.Settled := by
  obtain ⟨after, ran, carries⟩ :=
    (follows_quiesceAndReport (ρ := SimulatedRobot) (τ := τ)).result_eq before
  obtain ⟨completed, still, settled⟩ := linked.rested
  rw [Played.result_of_none completed] at ran
  rw [← carries.robot] at still settled
  rw [← records_rest linked]
  exact ⟨after, ran, carries.leads, still, settled⟩

/-- The deeds of a request to connect that reaches the robot at once. -/
def reachDeeds (config : Config) : Journal :=
  [.call .connect none, .event (.connectAttempt 1 true)] ++
    (Journal.succeeded (shownCalls config) ++ restDeeds)

theorem welcome_of_linked (attempt : Nat) (before : Desk SimulatedRobot τ)
    (linked : before.world.robot.Linked) :
    ∃ after, welcome attempt before =
        .ok () ⟨{ before.session with connected := true }, after⟩ ∧
      World.Leads (Journal.succeeded (shownCalls before.session.config) ++ restDeeds)
        before.world after ∧ after.robot.Linked ∧ after.robot.Settled := by
  have greetedRobot : (greeted attempt before.world).robot.Linked := linked
  obtain ⟨_, shown, showed, rfl, shows, stillShown⟩ :=
    (follows_showReached before.session.config).of_linked_script (keepsLink_shownCalls _)
      greetedRobot
  obtain ⟨after, rested, rests, still⟩ := quiesceAndReport_of_linked stillShown
  refine ⟨after, ?_, ((World.Leads.notice _ before.world).trans shows).trans rests, still⟩
  rw [welcome_of_shown showed, reset, Operation.act_of_ok rested]

/-- A robot within reach is connected on the first attempt. -/
theorem connect_of_within (before : Desk SimulatedRobot τ)
    (healthy : before.world.robot.failing = none) (within : before.world.robot.unreachable = 0)
    (tries : before.session.config.connectAttempts ≠ 0) :
    ∃ after, connect before = .ok true ⟨{ before.session with connected := true }, after⟩ ∧
      World.Leads (reachDeeds before.session.config) before.world after ∧
      after.robot.Linked := by
  obtain ⟨further, counted⟩ : ∃ further,
      before.session.config.connectAttempts.toNat = further + 1 :=
    Nat.exists_eq_succ_of_ne_zero fun noAttempts => tries (UInt8.toNat_inj.mp noAttempts)
  have answers := answer_connect healthy
  rw [within, decide_eq_true rfl] at answers
  have opened : (reported 1 true before.world).robot.Linked := by
    change (answered before.world).robot.Linked
    rw [answered, Act.robot_afterCall, robot_of_answered answers]
    exact linked_accept_connect healthy within
  obtain ⟨after, welcomed, leads, still, -⟩ :=
    welcome_of_linked 1 ⟨before.session, reported 1 true before.world⟩ opened
  refine ⟨after, ?_, (leads_reported 1 answers).trans leads, still⟩
  change connectFrom before.session.config.connectAttempts.toNat 1 before = _
  rw [counted, connectFrom_of_reached 1 answers, Act.bind_of_ok welcomed]
  rfl

/-- The deeds of a run of the program, all of which succeeds, and of the reset after it. -/
def runDeeds (session : Session) (robot : SimulatedRobot) : Journal :=
  ((session.program.score session.holds session.parameters).play robot).records ++ restDeeds

theorem runProgram_of_linked (before : Desk SimulatedRobot τ)
    (linked : before.world.robot.Linked) :
    ((before.session.program.score before.session.holds before.session.parameters).play
        before.world.robot).failure = none ∧
    ∃ after, runProgram before = .ok before.session.program ⟨before.session, after⟩ ∧
      World.Leads (before.session.runDeeds before.world.robot) before.world after ∧
      after.robot.Linked ∧ after.robot.Settled := by
  have keeps : ∀ call ∈ (before.session.program.score before.session.holds
      before.session.parameters).calls, call.KeepsLink := by
    rw [Program.score, Program.calls_scoreFrom]
    exact before.session.keepsLink_programCalls
  obtain ⟨completed, stillRan⟩ := linked.play keeps
  obtain ⟨between, run, carries⟩ := (Program.follows_run before.session.holds
    before.session.parameters before.session.program).result_eq before.world
  rw [← carries.robot] at stillRan
  obtain ⟨after, rest, further⟩ :=
    (follows_quiesceAndReport (ρ := SimulatedRobot) (τ := τ)).result_eq between
  obtain ⟨rested, still⟩ := stillRan.rested
  obtain ⟨notices, result⟩ := runProgram_of_results run rest
  rw [completed, rested] at result
  refine ⟨completed, after.tell notices, result, ?_, ?_⟩
  · rw [runDeeds, ← records_rest stillRan]
    exact carries.leads.trans (further.tell notices).leads
  · rw [World.robot_tell, further.robot]
    exact still

/-- The deeds of a request to disconnect that comes to its end. -/
def leaveDeeds : Journal := restDeeds ++ [.call .disconnect none, .event .disconnected]

theorem disconnect_of_linked (before : Desk SimulatedRobot τ)
    (connected : before.session.connected = true) (linked : before.world.robot.Linked) :
    ∃ after, disconnect before =
        .ok () ⟨{ before.session with connected := false }, after⟩ ∧
      World.Leads leaveDeeds before.world after ∧ after.robot.Settled := by
  obtain ⟨between, rested, rests, still, settled⟩ := quiesceAndReport_of_linked linked
  obtain ⟨reply, accepted⟩ := exists_reply_of_unrefused
    (refusal_of_connected .disconnect still.healthy still.connected)
  have closed : Operation.act (Act.call .disconnect)
      (⟨before.session, between⟩ : Desk SimulatedRobot τ) = _ :=
    Operation.act_of_ok (Act.call_of_ok accepted)
  have closes := (World.Leads.call_of_ok accepted).trans (.event .disconnected _)
  refine ⟨_, ?_, rests.trans (closes.told ⟨.info, "Session: disconnected"⟩), ?_⟩
  · rw [disconnect_of_connected connected, reset, Act.bind_of_ok (Operation.act_of_ok rested),
      Act.bind_of_ok closed]
    rfl
  · change (Act.afterCall (Robot.perform .disconnect between.robot) between).robot.Settled
    rw [Act.robot_afterCall, robot_of_answered accepted]
    refine ⟨settled.healthy, ?_, settled.rest⟩
    rintro ⟨⟩

end Session

namespace Monitor

variable [Ticker τ]

/-- The induction is on the seconds left. -/
theorem watchFrom_of_linked (target : Target) (settings : MonitorSettings)
    (remaining elapsed : Nat) (taken : Array Sample) {before : World SimulatedRobot τ}
    (linked : before.robot.Linked) :
    ∃ report after, watchFrom target.kind settings target.read remaining elapsed taken before =
      .ok report after ∧ after.robot.Linked := by
  induction remaining generalizing elapsed taken before with
  | zero => exact ⟨_, before, rfl, linked⟩
  | succ remaining ih =>
      obtain ⟨sample, between, readings, -, -, still⟩ :=
        target.follows_read.of_linked_script (keepsLink_calls target) linked
      rw [watchFrom_succ, Act.bind_of_ok (second_of_ok readings (elapsed + 1))]
      dsimp only
      split
      · exact ⟨_, _, rfl, by rwa [Act.robot_afterTick, World.robot_record]⟩
      · split
        · exact ⟨_, _, rfl, by rwa [Act.robot_afterTick, World.robot_record]⟩
        · apply ih
          rwa [Act.robot_afterTick, World.robot_record]

theorem watch_of_linked (tone : AlarmTone) (settings : MonitorSettings) (target : Target)
    {before : World SimulatedRobot τ} (linked : before.robot.Linked) :
    ∃ report after, target.watch tone settings before = .ok report after ∧
      after.robot.Linked := by
  have announced : (started target settings before).robot.Linked := linked
  obtain ⟨report, between, ran, stillRan⟩ :=
    watchFrom_of_linked target settings settings.durationSeconds.toNat 0 #[] announced
  obtain ⟨after, watched, carries⟩ := watch_of_ok tone ran
  obtain ⟨reports, script, sounds, closes⟩ := exists_closing_eq tone target.kind report
  have keeps : ∀ call ∈ (closing tone target.kind report).calls, call.KeepsLink := by
    rw [closes, Score.calls_append, Score.calls_reports, Score.calls_silent, List.nil_append]
    rcases sounds with rfl | rfl
    · simp
    · exact keepsLink_alarm tone
  obtain ⟨completed, still⟩ := stillRan.play keeps
  rw [Played.result_of_none completed] at watched
  rw [← carries.robot] at still
  exact ⟨report, after, watched, still⟩

end Monitor

end Rover
