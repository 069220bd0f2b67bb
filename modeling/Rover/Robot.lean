import Rover.Journal.Notice
import Rover.Robot.Call

/-!
# Robots

A robot is a state and a way to answer calls. Nothing else is known of it: any call may fail,
at any time, and a failing call may change the state too.
-/

namespace Rover

/-- How a robot answers a call. -/
structure Response (ρ : Type) (α : Type) where
  result : Except DeviceError α
  robot : ρ
  /-- What the robot tells the log, in order. -/
  notices : List Notice := []
  /-- The nanoseconds that the call really takes. -/
  pause : Nat := 0

/-- The states `ρ` of a robot answer calls. -/
class Robot (ρ : Type) where
  perform : (call : Call) → ρ → Response ρ call.Reply

/-- A fault that strikes one call. -/
structure Fault where
  /-- The number of the call, counted from zero. -/
  number : Nat
  error : DeviceError
  deriving DecidableEq, Repr

/-- A robot behind a link that fails at given calls, which then do not reach it. -/
structure Unreliable (ρ : Type) where
  robot : ρ
  /-- How many calls have been tried. -/
  tried : Nat := 0
  faults : List Fault := []

namespace Unreliable

variable {ρ : Type}

/-- The first listed fault that strikes the call of the given number. -/
def faultAt? (faults : List Fault) (number : Nat) : Option DeviceError :=
  (faults.find? fun fault => fault.number = number).map Fault.error

/-- Fails the call if a fault strikes it and hands it on otherwise. -/
def perform [Robot ρ] (call : Call) : Unreliable ρ → Response (Unreliable ρ) call.Reply
  | ⟨robot, tried, faults⟩ =>
    match faultAt? faults tried with
    | some error => { result := .error error, robot := ⟨robot, tried + 1, faults⟩ }
    | none =>
      match Robot.perform call robot with
      | ⟨result, robot, notices, pause⟩ => ⟨result, ⟨robot, tried + 1, faults⟩, notices, pause⟩

instance [Robot ρ] : Robot (Unreliable ρ) := ⟨perform⟩

end Unreliable

end Rover
