/-!
# Notices

A notice is one line for the reader of the log, with a level that says how much it matters.
-/

namespace Rover

/-- How much a notice matters, the most important level first. -/
inductive Level where
  | error
  | warn
  | info
  | debug
  | trace
  deriving DecidableEq, Repr, Inhabited

namespace Level

/-- The place of a level, zero for the most important one. -/
def rank : Level → Nat
  | .error => 0
  | .warn => 1
  | .info => 2
  | .debug => 3
  | .trace => 4

/-- The mark of a level at the start of a line. -/
def mark : Level → String
  | .error => "ERROR"
  | .warn => "WARN"
  | .info => "INFO"
  | .debug => "DEBUG"
  | .trace => "TRACE"

/-- Whether a reader who asks for `threshold` is shown notices of this level. -/
def shownAt (level threshold : Level) : Bool := level.rank ≤ threshold.rank

end Level

/-- One line of the log. -/
structure Notice where
  level : Level
  text : String
  deriving DecidableEq, Repr

/-- The line as it is shown. -/
def Notice.line (notice : Notice) : String := notice.level.mark ++ " " ++ notice.text

end Rover
