import Mathlib.Data.List.Induction
import Rover.Proofs.Robot.Faultless
import Rover.Proofs.Robot.Reported

/-!
# The simulated robot as a replay

Whatever is asked of a simulated robot, its state is what its accepted calls make of it: the motors,
the LED and the buzzer are as they were set last, every sensor has moved on by its own readings, and
the link is open if the robot was reached since it was last closed. A call that is not accepted
leaves no trace.
-/

namespace Rover

namespace Call

end Call

namespace SimulatedRobot

end SimulatedRobot

/-! ## Errands -/

/-- What a robot can be asked for directly: a call, or the reset with its row of calls. -/
inductive Errand where
  | call (call : Call)
  | reset
  deriving DecidableEq

namespace Errand

open SimulatedRobot (Provision)

variable {ρ τ : Type} [Robot ρ]

def act : Errand → Act ρ τ Unit
  | .call request => do
    let _ ← Act.call request
  | .reset => Act.quiesce

/-- The world after errands in order, whether they succeed or fail. -/
def serve (errands : List Errand) (world : World ρ τ) : World ρ τ :=
  errands.foldl (fun world errand => Act.leaves errand.act world) world

end Errand

end Rover
