import Rover.Proofs.Robot.Actuator
import Rover.Proofs.Session.Calls

/-!
# Actuators left running

A reset stops at its first failing call, and an alarm does not come to its last call if its hold
fails. Which actuators a request can leave running follows from that: those whose shut-off was not
tried at all.
-/

namespace Rover

open Actuator

variable {ρ τ : Type} [Robot ρ] {core : ρ → SimulatedRobot}

namespace Session

/-- Every reset begins with the motors. -/
theorem motors_mem_calls_play_restScore (robot : ρ) :
    Actuator.motors.shutOff ∈ (restScore.play robot).records.calls := by
  change _ ∈ (Score.play (.silent (.setMotors 0 0) :: _) robot).records.calls
  rw [Cue.silent]
  cases outcome : (Robot.perform (.setMotors 0 0) robot).result with
  | ok reply =>
      rw [Score.play_call_of_ok outcome]
      simp [shutOff]
  | error error =>
      rw [Score.play_call_of_error outcome]
      simp [shutOff]

end Session

namespace Monitor

/-- An alarm leaves the motors and the LED alone. Of the buzzer it leaves the tone on if its hold
fails, since the call that ends the tone is not tried then. -/
theorem halts_alarm (link : IsLink core) (tone : AlarmTone) {robot : ρ}
    (rest : ∀ actuator : Actuator, actuator.AtRest (core robot)) :
    let sounded := Score.play ((alarm tone).map .silent) robot
    Actuator.motors.AtRest (core sounded.robot) ∧ Actuator.led.AtRest (core sounded.robot) ∧
    (Actuator.buzzer.Halts sounded.records (core sounded.robot) ↔
      ∀ error, sounded.records.attempts.getLast? ≠
        some (.wait tone.millis, some error)) := by
  intro sounded
  have far : core sounded.robot =
      sounded.records.accepted.foldl SimulatedRobot.accept (core robot) :=
    link.core_exchange (Exchange.play _ robot)
  have tried := Score.tried_play_silent (alarm tone) robot
  have motors : (core robot).motors = (0, 0) := rest .motors
  have buzzer : (core robot).tone = none := rest .buzzer
  have led : (core robot).led = .dark := rest .led
  rw [far, Journal.accepted]
  simp only [Halts, AtRest, shutOff]
  obtain ⟨error, lost⟩ | ⟨later, sounds, tried⟩ := tried.cons_cases
  · simp [sounded, lost, motors, buzzer, led]
  obtain ⟨error, lost⟩ | ⟨later, held, tried⟩ := tried.cons_cases
  · simp [sounded, sounds, lost, SimulatedRobot.accept, SimulatedRobot.apply,
      SimulatedRobot.keep, motors, led]
  obtain ⟨error, lost⟩ | ⟨later, ended, tried⟩ := tried.cons_cases
  · simp [sounded, sounds, held, lost, SimulatedRobot.accept, SimulatedRobot.apply,
      SimulatedRobot.keep, motors, led]
  · simp [sounded, sounds, held, ended, tried.eq_nil, SimulatedRobot.accept, SimulatedRobot.apply,
      SimulatedRobot.keep, motors, led]

/-- Samples leave the actuators alone. -/
theorem atRest_of_sampled (link : IsLink core) {target : Target} {start last : ρ}
    {sampled : Journal} (exchange : Exchange start sampled last)
    (among : ∀ call ∈ sampled.calls, call ∈ target.calls)
    (rest : ∀ actuator : Actuator, actuator.AtRest (core start)) :
    ∀ actuator : Actuator, actuator.AtRest (core last) := by
  have preserved : ∀ (call : Call) (robot : SimulatedRobot), call.isReading = true →
      (∀ actuator : Actuator, actuator.AtRest robot) →
      ∀ actuator : Actuator, actuator.AtRest (robot.accept call) :=
    fun _ robot reads still actuator =>
      (atRest_accept_reading reads actuator robot).mpr (still actuator)
  apply link.core_invariant _ preserved exchange _ rest
  exact fun call tried => isReading_calls target call (among call tried)

/-- The request to watch a target. -/
def Target.request (settings : MonitorSettings) : Target → Request τ
  | .light sensor => .monitorLight sensor settings
  | .temperature => .monitorTemperature settings

theorem Target.serve_request [Ticker τ] (target : Target) (settings : MonitorSettings)
    (before : Desk ρ τ) :
    (target.request settings).serve before =
      ⟨before.session,
        Act.leaves (target.watch before.session.alarmTone settings) before.world⟩ := by
  cases target <;> exact Operation.leaves_act _ before

end Monitor

namespace Request

variable [Ticker τ]

/-- Over any link to a robot at rest, whatever calls fail. After a run of the program an actuator
is at rest, unless its own shut-off failed, just if the reset came to its shut-off or if it was at
rest anyway; the reset always comes to the motors. After a watch the motors and the LED are at rest,
and so is the buzzer, unless its own shut-off failed, just if it was not the hold of the alarm that
failed last. -/
theorem halts_iff (link : IsLink core) (before : Desk ρ τ)
    (rest : (core before.world.robot).isQuiescent = true) :
    (let program := before.session.program
     let ran :=
      (program.score before.session.holds before.session.parameters).play before.world.robot
     let after := (runProgram.serve before).world
     ∃ between closing, ran.Carries before.world between ∧
      World.Leads closing between after ∧ closing.calls <+: Session.restCalls ∧
      Actuator.motors.shutOff ∈ closing.calls ∧
      ∀ actuator : Actuator, actuator.Halts closing (core after.robot) ↔
        actuator.shutOff ∈ closing.calls ∨ actuator.AtRest (core between.robot)) ∧
    ∀ (target : Monitor.Target) (settings : MonitorSettings),
      let after := ((target.request settings).serve before).world
      ∃ between sampled sounded, World.Leads sampled before.world between ∧
        (∀ call ∈ sampled.calls, call ∈ target.calls) ∧
        World.Leads sounded between after ∧
        sounded.calls <+: Monitor.alarm before.session.alarmTone ∧
        Actuator.motors.AtRest (core after.robot) ∧ Actuator.led.AtRest (core after.robot) ∧
        (Actuator.buzzer.Halts sounded (core after.robot) ↔
          ∀ error, sounded.attempts.getLast? ≠
            some (.wait before.session.alarmTone.millis, some error)) := by
  have still := (isQuiescent_iff _).mp rest
  constructor
  · obtain ⟨-, between, carries, closes⟩ := Session.leaves_runProgram before
    rw [← carries.robot] at closes
    refine ⟨between, _, carries, closes.leads, (Score.tried_play _ _).isPrefix_calls,
      Session.motors_mem_calls_play_restScore _, ?_⟩
    intro actuator
    rw [serve, closes.robot]
    have shuts : ∀ call ∈ Session.restScore.calls, ∃ other : Actuator, call = other.shutOff :=
      fun _ inside => exists_of_mem_restCalls inside
    exact halts_play_iff link shuts between.robot actuator
  · intro target settings after
    obtain ⟨between, sampled, reports, script, leads, among, sounds, carries⟩ :=
      Monitor.watch_leads before.session.alarmTone settings target before.world
    have watched : after =
        Act.leaves (target.watch before.session.alarmTone settings) before.world :=
      congrArg Desk.world (target.serve_request settings before)
    rw [← watched] at carries
    have calm := Monitor.atRest_of_sampled link leads.robot among still
    refine ⟨between, sampled, _, leads, among, carries.leads, ?_, ?_⟩
    · have begins := (Score.tried_play (reports.map Cue.report ++ script.map Cue.silent)
        between.robot).isPrefix_calls
      rw [Score.calls_append, Score.calls_reports, List.nil_append, Score.calls_silent] at begins
      rcases sounds with rfl | rfl
      · rw [List.prefix_nil.mp begins]
        exact List.nil_prefix
      · exact begins
    · rw [carries.robot, Score.play_map_report_append, Played.robot_precededBy]
      rcases sounds with rfl | rfl
      · simpa [Halts] using ⟨calm .motors, calm .led, calm .buzzer⟩
      · have halts := Monitor.halts_alarm link before.session.alarmTone calm
        simpa [Halts] using halts

/-- A robot at rest, near a lamp, behind a link on which the third call is lost. -/
def lostHold : Desk (Unreliable SimulatedRobot) ManualTicker where
  session := { Session.standard with connected := true }
  world := {
    robot := { robot := { connected := true }, faults := [⟨2, .writeFailed "wait"⟩] }
    ticker := {} }

/-- A robot at rest that is about to sing and dance, behind a link on which the first call of the
reset is lost. -/
def lostStop : Desk (Unreliable SimulatedRobot) ManualTicker where
  session := { Session.standard with connected := true, program := [.songAndDance] }
  world := {
    robot := { robot := { connected := true }, faults := [⟨14, .writeFailed "set_motors"⟩] }
    ticker := {} }

theorem halts_after_lost_hold :
    lostHold.world.robot.robot.isQuiescent = true ∧
    let after := (((Monitor.Target.light .left).request ⟨.maximum, 0, 1⟩).serve lostHold).world
    Actuator.motors.AtRest after.robot.robot ∧ Actuator.led.AtRest after.robot.robot := by
  obtain ⟨-, watched⟩ := halts_iff isLink_id.unreliable lostHold rfl
  obtain ⟨-, -, -, -, -, -, -, motors, led, -⟩ := watched (.light .left) ⟨.maximum, 0, 1⟩
  exact ⟨rfl, motors, led⟩

/-- An alarm whose hold is lost leaves the tone on, and a reset whose first call is lost leaves the
LED lit. In both cases the shut-off was not even tried. -/
theorem running_after_lost_call :
    (lostHold.world.robot.robot.isQuiescent = true ∧
      let after := ((monitorLight .left ⟨.maximum, 0, 1⟩).serve lostHold).world
      ¬Actuator.buzzer.AtRest after.robot.robot ∧
        Actuator.buzzer.shutOff ∉ after.history.calls) ∧
    (lostStop.world.robot.robot.isQuiescent = true ∧
      let after := (runProgram.serve lostStop).world
      ¬Actuator.led.AtRest after.robot.robot ∧ Actuator.led.shutOff ∉ after.history.calls) := by
  decide +kernel

end Request

end Rover
