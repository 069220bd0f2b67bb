import Rover.Proofs.Monitor.Ending
import Rover.Proofs.Robot.Link
import Rover.Proofs.Session.Rest

/-!
# Actuators and their shut-offs

Three things of a robot act: its motors, its buzzer and its LED. Each has one call that shuts it
off. A row of calls that ends at the first failing one shuts off only what it came to.
-/

namespace Rover

theorem SimulatedRobot.isQuiescent_iff (robot : SimulatedRobot) :
    robot.isQuiescent = true ↔ robot.motors = (0, 0) ∧ robot.tone = none ∧ robot.led = .dark := by
  simp [isQuiescent, and_assoc]

/-- What a robot acts with. -/
inductive Actuator where
  | motors
  | buzzer
  | led
  deriving DecidableEq, Repr

namespace Actuator

/-- The call that brings the actuator to rest. -/
def shutOff : Actuator → Call
  | .motors => .setMotors 0 0
  | .buzzer => .noteOff
  | .led => .setLed ⟨0, 0, 0⟩

/-- Whether the actuator of a robot is at rest. -/
def AtRest (robot : SimulatedRobot) : Actuator → Prop
  | .motors => robot.motors = (0, 0)
  | .buzzer => robot.tone = none
  | .led => robot.led = .dark

instance (robot : SimulatedRobot) : (actuator : Actuator) → Decidable (actuator.AtRest robot)
  | .motors => inferInstanceAs (Decidable (robot.motors = (0, 0)))
  | .buzzer => inferInstanceAs (Decidable (robot.tone = none))
  | .led => inferInstanceAs (Decidable (robot.led = .dark))

/-- The actuator came to rest, unless its own shut-off was tried at the end and failed. -/
def Halts (ending : Journal) (robot : SimulatedRobot) (actuator : Actuator) : Prop :=
  actuator.AtRest robot ∨ ∃ error, (actuator.shutOff, some error) ∈ ending.attempts

theorem shutOff_inj {actuator other : Actuator} :
    actuator.shutOff = other.shutOff ↔ actuator = other := by
  cases actuator <;> cases other <;> decide

theorem isQuiescent_iff (robot : SimulatedRobot) :
    robot.isQuiescent = true ↔ ∀ actuator : Actuator, actuator.AtRest robot := by
  rw [SimulatedRobot.isQuiescent_iff]
  constructor
  · rintro ⟨motors, buzzer, led⟩ actuator
    cases actuator with
    | motors => exact motors
    | buzzer => exact buzzer
    | led => exact led
  · intro rest
    exact ⟨rest .motors, rest .buzzer, rest .led⟩

theorem exists_of_mem_restCalls {call : Call} (inside : call ∈ Session.restCalls) :
    ∃ actuator : Actuator, call = actuator.shutOff := by
  simp only [Session.restCalls, List.mem_cons, List.not_mem_nil, or_false] at inside
  rcases inside with rfl | rfl | rfl
  · exact ⟨.motors, rfl⟩
  · exact ⟨.buzzer, rfl⟩
  · exact ⟨.led, rfl⟩

theorem atRest_accept_shutOff (actuator : Actuator) (robot : SimulatedRobot) :
    actuator.AtRest (robot.accept actuator.shutOff) := by
  cases actuator <;> rfl

/-- A shut-off leaves the other actuators alone. -/
theorem atRest_accept_of_ne {actuator other : Actuator} (different : actuator ≠ other)
    (robot : SimulatedRobot) :
    actuator.AtRest (robot.accept other.shutOff) ↔ actuator.AtRest robot := by
  cases actuator <;> cases other <;> first | exact absurd rfl different | exact Iff.rfl

/-- Readings leave all actuators alone. -/
theorem atRest_accept_reading {call : Call} (reads : call.isReading = true)
    (actuator : Actuator) (robot : SimulatedRobot) :
    actuator.AtRest (robot.accept call) ↔ actuator.AtRest robot := by
  cases call with
  | temperature | leftLight | rightLight => cases actuator <;> exact Iff.rfl
  | _ => cases reads

variable {ρ : Type} [Robot ρ] {core : ρ → SimulatedRobot}

/-- After a row of shut-offs an actuator was halted just if the row came to it, or if nothing had
to be done. The induction is on the row. -/
theorem halts_play_iff (link : IsLink core) {score : Score}
    (shuts : ∀ call ∈ score.calls, ∃ other : Actuator, call = other.shutOff) (robot : ρ)
    (actuator : Actuator) :
    actuator.Halts (score.play robot).records (core (score.play robot).robot) ↔
      actuator.shutOff ∈ (score.play robot).records.calls ∨ actuator.AtRest (core robot) := by
  induction score generalizing robot with
  | nil => simp [Halts]
  | cons cue rest ih =>
      cases cue with
      | report event => simpa [Halts] using ih (by simpa using shuts) robot
      | call call reports =>
          rw [Score.calls_cons] at shuts
          obtain ⟨⟨other, rfl⟩, later⟩ := List.forall_mem_cons.mp shuts
          cases outcome : (Robot.perform other.shutOff robot).result with
          | error error =>
              rw [Score.play_call_of_error outcome]
              simp [Halts, link.refuses outcome, or_comm]
          | ok reply =>
              have further := ih later (Robot.perform other.shutOff robot).robot
              rw [(link.accepts outcome).2] at further
              rw [Score.play_call_of_ok outcome]
              by_cases same : actuator = other
              · subst same
                have halted := further.mpr (.inr (atRest_accept_shutOff actuator _))
                simpa [Halts] using halted
              · rw [atRest_accept_of_ne same] at further
                have different : actuator.shutOff ≠ other.shutOff := mt shutOff_inj.mp same
                simpa [Halts, different] using further

end Actuator

end Rover
