import Rover.Config
import Rover.Program
import Rover.Robot.Call

/-!
# Errors of a session

Every failure that a session can report, with its cause.
-/

namespace Rover

/-- Why an operation of a session failed. -/
inductive Error where
  | device (error : DeviceError)
  | entry (error : EntryError)
  | config (error : ConfigError)
  | command (error : UnknownCommand)
  deriving DecidableEq

namespace Error

/-- What the operator is told: where the failure comes from, and the cause. -/
def message : Error → String
  | .device error => "device: " ++ error.message
  | .entry error => "validation: " ++ error.message
  | .config error => "config: " ++ error.message
  | .command error => "command: " ++ error.message

end Error

end Rover
