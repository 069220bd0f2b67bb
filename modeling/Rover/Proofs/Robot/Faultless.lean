import Rover.Proofs.Robot.Actuator
import Rover.Proofs.Session.Connect

/-!
# Robots without faults

A simulated robot without an injected fault refuses calls only while it is not connected, and then
it refuses all but an attempt to connect. So a script either comes to its end or leaves the robot as
it was.
-/

namespace Rover

namespace SimulatedRobot

/-- Nothing keeps the robot from answering. -/
structure Linked (robot : SimulatedRobot) : Prop where
  healthy : robot.failing = none
  connected : robot.connected = true
  within : robot.unreachable = 0

/-- The robot has no fault, is within reach if it is connected, and is at rest. -/
structure Settled (robot : SimulatedRobot) : Prop where
  healthy : robot.failing = none
  within : robot.connected = true → robot.unreachable = 0
  rest : robot.isQuiescent = true

variable {robot : SimulatedRobot} {call : Call}

theorem Linked.settled (linked : robot.Linked) (rest : robot.isQuiescent = true) :
    robot.Settled := ⟨linked.healthy, fun _ => linked.within, rest⟩

theorem Settled.linked (settled : robot.Settled) (connected : robot.connected = true) :
    robot.Linked := ⟨settled.healthy, connected, settled.within connected⟩

theorem exists_reply_of_unrefused (unrefused : robot.refusal? call = none) :
    ∃ reply, (Robot.perform call robot).result = .ok reply := by
  change ∃ reply, (perform call robot).result = .ok reply
  simp only [perform, unrefused]
  exact ⟨_, rfl⟩

theorem robot_of_answered {reply : call.Reply}
    (answered : (Robot.perform call robot).result = .ok reply) :
    (Robot.perform call robot).robot = robot.accept call := robot_perform_of_ok answered

theorem refusal_of_connected (call : Call) (healthy : robot.failing = none)
    (connected : robot.connected = true) : robot.refusal? call = none := by
  simp [refusal?, healthy, connected]

theorem perform_of_unconnected (opens : call ≠ .connect) (apart : robot.connected = false) :
    (Robot.perform call robot).result = .error .notConnected ∧
      (Robot.perform call robot).robot = robot := by
  have refused : robot.refusal? call = some .notConnected := if_pos ⟨opens, apart⟩
  change (perform call robot).result = _ ∧ (perform call robot).robot = _
  simp only [perform, refused, and_self]

theorem failing_accept (robot : SimulatedRobot) (call : Call) :
    (robot.accept call).failing = robot.failing := by
  cases call with
  | connect => rw [accept_connect]; rfl
  | _ => rfl

theorem Linked.accept (linked : robot.Linked) (keeps : call.KeepsLink) :
    (robot.accept call).Linked where
  healthy := (failing_accept robot call).trans linked.healthy
  connected := (connected_accept keeps robot).trans linked.connected
  within := by
    cases call with
    | connect => exact absurd rfl keeps.1
    | _ => exact linked.within

theorem failing_perform (robot : SimulatedRobot) (call : Call) :
    (Robot.perform call robot).robot.failing = robot.failing := by
  cases outcome : (Robot.perform call robot).result with
  | ok reply =>
      exact (congrArg failing (robot_of_answered outcome)).trans (failing_accept robot call)
  | error error => exact congrArg failing (robot_perform_of_error outcome)

theorem error_of_healthy {error : DeviceError} (healthy : robot.failing = none)
    (refused : (Robot.perform call robot).result = .error error) : error = .notConnected := by
  change (perform call robot).result = _ at refused
  simp only [perform, refusal?, healthy] at refused
  split at refused
  next reason unconnected =>
    split at unconnected
    next => rw [← Except.error.inj refused, ← Option.some.inj unconnected]
    next => cases unconnected
  next => cases refused

/-- With the link open and no fault every score comes to its end. -/
theorem Linked.play {score : Score} (linked : robot.Linked)
    (keeps : ∀ call ∈ score.calls, call.KeepsLink) :
    (score.play robot).failure = none ∧ (score.play robot).robot.Linked := by
  induction score generalizing robot with
  | nil => exact ⟨rfl, linked⟩
  | cons cue rest ih =>
      cases cue with
      | report event => exact ih linked keeps
      | call call reports =>
          rw [Score.calls_cons] at keeps
          obtain ⟨now, later⟩ := List.forall_mem_cons.mp keeps
          obtain ⟨reply, accepted⟩ :=
            exists_reply_of_unrefused (refusal_of_connected call linked.healthy linked.connected)
          have further := linked.accept now
          rw [← robot_of_answered accepted] at further
          rw [Score.play_call_of_ok accepted]
          exact ih further later

/-- Without a link no exchange but one that opens it changes the robot. -/
theorem exchange_of_unconnected {start last : SimulatedRobot} {gain : Journal}
    (exchange : Exchange start gain last) (apart : start.connected = false)
    (opens : ∀ call ∈ gain.calls, call ≠ .connect) : last = start := by
  induction exchange with
  | done => rfl
  | event happened _ ih => exact ih apart (by simpa using opens)
  | @call tried robot _ _ _ ih =>
      simp only [Journal.calls_cons, Record.call?, Option.toList_some, List.cons_append,
        List.nil_append, List.forall_mem_cons] at opens
      have same := (perform_of_unconnected opens.1 apart).2
      rw [same] at ih
      exact ih apart opens.2

/-- A robot without faults fails no call for another reason than the missing link. -/
theorem failures_of_healthy {start last : SimulatedRobot} {gain : Journal}
    (exchange : Exchange start gain last) (healthy : start.failing = none) :
    ∀ error ∈ gain.failures, error = .notConnected := by
  induction exchange with
  | done => simp [Journal.failures]
  | event happened _ ih => simpa [Journal.failures, Record.failure?] using ih healthy
  | @call tried robot _ _ _ ih =>
      have later := ih ((failing_perform robot tried).trans healthy)
      cases outcome : (Robot.perform tried robot).result with
      | ok reply => simpa [Journal.failures, Record.failure?, Act.failure?] using later
      | error error =>
          have unconnected := error_of_healthy healthy outcome
          simpa [Journal.failures, Record.failure?, Act.failure?, unconnected] using later

/-- An attempt to connect is always answered. -/
theorem answer_connect (healthy : robot.failing = none) :
    (Robot.perform .connect robot).result = .ok (decide (robot.unreachable = 0)) := by
  have unrefused : robot.refusal? .connect = none := by simp [refusal?, healthy]
  change (perform .connect robot).result = _
  simp only [perform, unrefused]
  exact congrArg Except.ok (fst_apply_connect (robot.keep .connect))

theorem linked_accept_connect (healthy : robot.failing = none)
    (within : robot.unreachable = 0) : (robot.accept .connect).Linked := by
  refine ⟨(failing_accept robot .connect).trans healthy, ?_, ?_⟩
  · simp [accept_connect, within]
  · simp [accept_connect, within]

theorem isQuiescent_accept_connect (robot : SimulatedRobot) :
    (robot.accept .connect).isQuiescent = robot.isQuiescent := by
  rw [accept_connect]
  rfl

theorem connected_accept_connect_of_beyond (beyond : robot.unreachable ≠ 0) :
    (robot.accept .connect).connected = robot.connected := by
  simp [accept_connect, keep, beyond]

theorem isQuiescent_accept_reading (reads : call.isReading = true)
    (rest : robot.isQuiescent = true) : (robot.accept call).isQuiescent = true := by
  rw [Actuator.isQuiescent_iff] at rest ⊢
  exact fun actuator => (actuator.atRest_accept_reading reads robot).mpr (rest actuator)

/-- Whatever happened in between, readings alone do not unsettle the robot. -/
theorem linked_of_readings {start last : SimulatedRobot} {gain : Journal}
    (exchange : Exchange start gain last) (reads : ∀ call ∈ gain.calls, call.isReading = true)
    (linked : start.Linked) (rest : start.isQuiescent = true) :
    last.Linked ∧ last.isQuiescent = true := by
  refine isLink_id.core_invariant (fun robot => robot.Linked ∧ robot.isQuiescent = true)
    ?_ exchange reads ⟨linked, rest⟩
  intro call robot reading holding
  refine ⟨holding.1.accept ?_, isQuiescent_accept_reading reading holding.2⟩
  constructor <;> rintro rfl <;> cases reading

theorem isQuiescent_foldl_rest (script : List Call) (robot : SimulatedRobot) :
    ((script ++ Session.restCalls).foldl accept robot).isQuiescent = true := by
  rw [List.foldl_append]
  rfl

/-- A script that quiets the robot at last leaves it at rest behind any link, if it comes to its
end. -/
theorem isQuiescent_of_completed {ρ : Type} [Robot ρ] {core : ρ → SimulatedRobot}
    (link : IsLink core) {script : List Call} (rests : Session.restCalls <:+ script) {start : ρ}
    (completed : (Score.play (script.map .silent) start).failure = none) :
    (core (Score.play (script.map .silent) start).robot).isQuiescent = true := by
  rw [link.core_play_of_none completed]
  obtain ⟨earlier, rfl⟩ := rests
  exact isQuiescent_foldl_rest earlier (core start)

/-- An alarm that comes to its end leaves a robot at rest at rest. -/
theorem isQuiescent_foldl_alarm (tone : AlarmTone) (rest : robot.isQuiescent = true) :
    ((Monitor.alarm tone).foldl accept robot).isQuiescent = true := by
  rw [isQuiescent_iff] at rest ⊢
  exact ⟨rest.1, rfl, rest.2.2⟩

/-- A script that comes to its end was accepted as a whole. -/
theorem robot_play_silent {script : List Call}
    (completed : (Score.play (script.map .silent) robot).failure = none) :
    (Score.play (script.map .silent) robot).robot = script.foldl accept robot :=
  isLink_id.core_play_of_none completed

theorem Linked.rested (linked : robot.Linked) :
    (Session.restScore.play robot).failure = none ∧
      (Session.restScore.play robot).robot.Linked ∧
      (Session.restScore.play robot).robot.Settled := by
  have keeps : ∀ call ∈ Session.restScore.calls, call.KeepsLink := Session.keepsLink_restCalls
  obtain ⟨completed, still⟩ := linked.play keeps
  exact ⟨completed, still, still.settled (Session.isQuiescent_of_rested isLink_id completed)⟩

end SimulatedRobot

end Rover
