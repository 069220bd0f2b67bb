import Rover.Proofs.Exchange
import Rover.Robot.Simulated

/-!
# Links to a simulated robot

A robot may stand behind a link that fails calls as it likes. What can be said of the simulated
robot at the far end depends only on the calls that succeed: it has accepted just these.
-/

namespace Rover

namespace Journal

/-- The calls that succeeded, in order. -/
def accepted (journal : Journal) : List Call :=
  journal.attempts.filterMap fun attempt => if attempt.2 = none then some attempt.1 else none

end Journal

theorem Journal.accepted_subset (journal : Journal) : journal.accepted ⊆ journal.calls := by
  intro call inside
  obtain ⟨attempt, among, succeeded⟩ := List.mem_filterMap.mp inside
  rw [← Journal.map_fst_attempts]
  split at succeeded
  next =>
    cases succeeded
    exact List.mem_map_of_mem among
  next => cases succeeded

theorem Tried.accepted_of_none {script : List Call} {journal : Journal}
    (tried : Tried script journal.attempts none) : journal.accepted = script := by
  rw [Journal.accepted, tried.eq_of_none, List.filterMap_map]
  exact List.filterMap_some

/-- Of a script that fails, calls before the failing one were accepted, and so the last one was
not. -/
theorem Tried.accepted_subset_dropLast {script : List Call} {journal : Journal}
    {error : DeviceError} (tried : Tried script journal.attempts (some error)) :
    journal.accepted ⊆ script.dropLast := by
  rw [Journal.accepted]
  generalize journal.attempts = attempts at tried
  cases tried with
  | cut before failing rest =>
      rw [List.dropLast_append_cons, List.filterMap_append, List.filterMap_map]
      have early : before.filterMap ((fun attempt : Call × Option DeviceError =>
          if attempt.2 = none then some attempt.1 else none) ∘ fun call => (call, none)) = before :=
        List.filterMap_some
      rw [early]
      exact List.append_subset.mpr ⟨List.subset_append_left _ _, by simp⟩

namespace SimulatedRobot

/-- The robot once it has accepted a call. -/
def accept (robot : SimulatedRobot) (call : Call) : SimulatedRobot :=
  (apply call (robot.keep call)).2

/-- An attempt to connect tells whether the robot is within reach. -/
theorem fst_apply_connect (robot : SimulatedRobot) :
    (apply .connect robot).1 = decide (robot.unreachable = 0) := by
  by_cases within : robot.unreachable = 0 <;> simp [apply, within]

/-- An attempt to connect changes nothing but the link and how far the robot is out of reach. -/
theorem accept_connect (robot : SimulatedRobot) :
    robot.accept .connect =
      { robot.keep .connect with
        connected := robot.connected || decide (robot.unreachable = 0)
        unreachable := robot.unreachable - 1 } := by
  by_cases within : robot.unreachable = 0
  · simp [accept, apply, keep, within]
  · simp [accept, apply, keep, within]

theorem robot_perform_of_ok {call : Call} {robot : SimulatedRobot} {reply : call.Reply}
    (answered : (perform call robot).result = .ok reply) :
    (perform call robot).robot = robot.accept call := by
  simp only [perform] at answered ⊢
  split at answered
  next => cases answered
  next unrefused => rfl

theorem robot_perform_of_error {call : Call} {robot : SimulatedRobot} {error : DeviceError}
    (answered : (perform call robot).result = .error error) :
    (perform call robot).robot = robot := by
  simp only [perform] at answered ⊢
  split at answered
  next => rfl
  next => cases answered

end SimulatedRobot

variable {ρ : Type} [Robot ρ]

namespace Unreliable

theorem perform_of_some {call : Call} {link : Unreliable ρ} {error : DeviceError}
    (strikes : faultAt? link.faults link.tried = some error) :
    (perform call link).result = .error error ∧
      (perform call link).robot.robot = link.robot := by
  cases link
  simp only [perform, strikes, and_self]

theorem perform_of_none {call : Call} {link : Unreliable ρ}
    (spares : faultAt? link.faults link.tried = none) :
    (perform call link).result = (Robot.perform call link.robot).result ∧
      (perform call link).robot.robot = (Robot.perform call link.robot).robot := by
  cases link
  simp only [perform, spares, and_self]

end Unreliable

/-- The robots `ρ` are links to the simulated robot `core`: a call that succeeds is one that it
answered, and a call that fails does not change it. -/
structure IsLink (core : ρ → SimulatedRobot) : Prop where
  accepts : ∀ {call : Call} {robot : ρ} {reply : call.Reply},
    (Robot.perform call robot).result = .ok reply →
      (SimulatedRobot.perform call (core robot)).result = .ok reply ∧
        core (Robot.perform call robot).robot = (core robot).accept call
  refuses : ∀ {call : Call} {robot : ρ} {error : DeviceError},
    (Robot.perform call robot).result = .error error →
      core (Robot.perform call robot).robot = core robot

/-- The simulated robot itself, without anything in between. -/
theorem isLink_id : IsLink (id : SimulatedRobot → SimulatedRobot) where
  accepts answered := ⟨answered, SimulatedRobot.robot_perform_of_ok answered⟩
  refuses answered := SimulatedRobot.robot_perform_of_error answered

namespace IsLink

variable {core : ρ → SimulatedRobot}

/-- Whatever the schedule of its faults, a further unreliable link leaves it a link. -/
theorem unreliable (link : IsLink core) :
    IsLink fun further : Unreliable ρ => core further.robot where
  accepts {call further reply} answered := by
    change (Unreliable.perform call further).result = _ at answered
    change _ ∧ core (Unreliable.perform call further).robot.robot = _
    cases fault : Unreliable.faultAt? further.faults further.tried with
    | some error =>
        rw [(Unreliable.perform_of_some fault).1] at answered
        cases answered
    | none =>
        rw [(Unreliable.perform_of_none fault).1] at answered
        rw [(Unreliable.perform_of_none fault).2]
        exact link.accepts answered
  refuses {call further error} answered := by
    change (Unreliable.perform call further).result = _ at answered
    change core (Unreliable.perform call further).robot.robot = _
    cases fault : Unreliable.faultAt? further.faults further.tried with
    | some error => rw [(Unreliable.perform_of_some fault).2]
    | none =>
        rw [(Unreliable.perform_of_none fault).1] at answered
        rw [(Unreliable.perform_of_none fault).2]
        exact link.refuses answered

/-- What every accepted call preserves, the far end preserves through any exchange. -/
theorem core_invariant (link : IsLink core) (holds : SimulatedRobot → Prop)
    {allowed : Call → Prop}
    (preserved : ∀ call robot, allowed call → holds robot → holds (robot.accept call))
    {start last : ρ} {deeds : Journal} (exchange : Exchange start deeds last)
    (permitted : ∀ call ∈ deeds.calls, allowed call) (holding : holds (core start)) :
    holds (core last) := by
  induction exchange with
  | done => exact holding
  | event happened _ ih => exact ih (by simpa using permitted) holding
  | @call tried robot _ _ _ ih =>
      simp only [Journal.calls_cons, Record.call?, Option.toList_some, List.cons_append,
        List.nil_append, List.forall_mem_cons] at permitted
      apply ih permitted.2
      cases outcome : (Robot.perform tried robot).result with
      | ok reply =>
          rw [(link.accepts outcome).2]
          exact preserved tried _ permitted.1 holding
      | error error =>
          rw [link.refuses outcome]
          exact holding

/-- The far end of a link comes down to the calls that succeeded. -/
theorem core_exchange (link : IsLink core) {start last : ρ} {deeds : Journal}
    (exchange : Exchange start deeds last) :
    core last = deeds.accepted.foldl SimulatedRobot.accept (core start) := by
  induction exchange with
  | done => rfl
  | event happened _ ih => exact ih
  | @call tried robot _ _ _ ih =>
      rw [ih]
      cases outcome : (Robot.perform tried robot).result with
      | ok reply =>
          rw [(link.accepts outcome).2]
          rfl
      | error error =>
          rw [link.refuses outcome]
          rfl

/-- A script that was played to its end was accepted as a whole. -/
theorem core_play_of_none (link : IsLink core) {script : List Call} {robot : ρ}
    (completed : (Score.play (script.map Cue.silent) robot).failure = none) :
    core (Score.play (script.map Cue.silent) robot).robot =
      script.foldl SimulatedRobot.accept (core robot) := by
  have tried := Score.tried_play_silent script robot
  rw [completed] at tried
  rw [link.core_exchange (Exchange.play _ _), tried.accepted_of_none]

end IsLink

end Rover
