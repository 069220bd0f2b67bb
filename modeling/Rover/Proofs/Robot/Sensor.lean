import Rover.Proofs.Robot.Link

/-!
# Sensors

A simulated robot has three sensors with a script each. An accepted call to a sensor takes its next
reading, and nothing else moves a script.
-/

namespace Rover

namespace Script

variable {α : Type}

/-- The reading of the given number, counted from zero. The last one repeats, and a script without
readings repeats its latest one. -/
def reading (script : Script α) (number : Nat) : α :=
  script.pending.getD number (script.pending.getLastD script.latest)

theorem fst_next (script : Script α) : script.next.1 = script.reading 0 := by
  cases script with
  | mk pending latest => cases pending <;> rfl

/-- To take a reading moves all later ones up by one. -/
theorem reading_next (script : Script α) (number : Nat) :
    script.next.2.reading number = script.reading (number + 1) := by
  cases script with
  | mk pending latest =>
      cases pending with
      | nil => rfl
      | cons value rest => rw [next_cons, reading, reading, List.getLastD_cons, List.getD_cons_succ]

end Script

/-- What a robot can read. -/
inductive Sensor where
  | temperature
  | left
  | right
  deriving DecidableEq, Repr

namespace Sensor

/-- The call that reads the sensor. -/
def call : Sensor → Call
  | .temperature => .temperature
  | .left => .leftLight
  | .right => .rightLight

/-- What the sensor of a robot reads from now on, as numbers. -/
def reading (robot : SimulatedRobot) : Sensor → (number : Nat) → Binary64
  | .temperature, number => robot.temperature.reading number
  | .left, number => .ofInt (robot.leftLight.reading number).toInt
  | .right, number => .ofInt (robot.rightLight.reading number).toInt

theorem call_inj {sensor other : Sensor} : sensor.call = other.call ↔ sensor = other := by
  cases sensor <;> cases other <;> decide

theorem isReading_call (sensor : Sensor) : sensor.call.isReading = true := by
  cases sensor <;> rfl

theorem exists_of_isReading {call : Call} (reads : call.isReading = true) :
    ∃ sensor : Sensor, call = sensor.call := by
  cases call with
  | temperature => exact ⟨.temperature, rfl⟩
  | leftLight => exact ⟨.left, rfl⟩
  | rightLight => exact ⟨.right, rfl⟩
  | _ => cases reads

/-- Only its own call moves the script of a sensor. -/
theorem reading_accept (sensor : Sensor) (call : Call) (robot : SimulatedRobot) (number : Nat) :
    sensor.reading (robot.accept call) number =
      if call = sensor.call then sensor.reading robot (number + 1)
      else sensor.reading robot number := by
  cases call with
  | connect =>
      rw [SimulatedRobot.accept_connect]
      cases sensor <;> rfl
  | temperature | leftLight | rightLight =>
      cases sensor <;> simp [reading, Sensor.call, SimulatedRobot.accept, SimulatedRobot.apply,
        SimulatedRobot.keep, Script.reading_next]
  | _ => cases sensor <;> rfl

/-- After accepted calls a sensor has moved on by its own ones. -/
theorem reading_foldl_accept (sensor : Sensor) (script : List Call) (robot : SimulatedRobot)
    (number : Nat) :
    sensor.reading (script.foldl SimulatedRobot.accept robot) number =
      sensor.reading robot (script.count sensor.call + number) := by
  induction script generalizing robot with
  | nil => rw [List.foldl_nil, List.count_nil, Nat.zero_add]
  | cons call rest ih =>
      rw [List.foldl_cons, ih, reading_accept]
      by_cases own : call = sensor.call
      · rw [if_pos own, own, List.count_cons_self, Nat.add_right_comm]
      · rw [if_neg own, List.count_cons_of_ne own]

end Sensor

end Rover
