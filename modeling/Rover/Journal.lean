import Rover.Journal.Event
import Rover.Robot.Call

/-!
# The journal

All that happens is kept in one journal in the order in which it happens. The calls that were
tried, the events and the lines of the log are views of it.
-/

namespace Rover

/-- One entry of a journal. -/
inductive Record where
  /-- A call that was tried, and why it failed if it did. -/
  | call (call : Call) (failure : Option DeviceError)
  | event (event : Event)
  | notice (notice : Notice)
  /-- Nanoseconds that really passed. -/
  | pause (nanoseconds : Nat)
  deriving DecidableEq

namespace Record

/-- The event of an entry. -/
def event? : Record → Option Event
  | .event happened => some happened
  | _ => none

/-- The call of an entry, failed or not. -/
def call? : Record → Option Call
  | .call tried _ => some tried
  | _ => none

/-- The failure of the call of an entry. -/
def failure? : Record → Option DeviceError
  | .call _ failure => failure
  | _ => none

/-- The line of the log that an entry gives. Events give one only if they are shown. -/
def notice? (eventsShown : Bool) : Record → Option Notice
  | .event happened => if eventsShown then some happened.notice else none
  | .notice told => some told
  | _ => none

end Record

/-- All that happened, in order. -/
abbrev Journal := List Record

namespace Journal

/-- The events in order. -/
def events (journal : Journal) : List Event := journal.filterMap Record.event?

/-- The calls that were tried, in order. -/
def calls (journal : Journal) : List Call := journal.filterMap Record.call?

/-- The failures of calls, in order. -/
def failures (journal : Journal) : List DeviceError := journal.filterMap Record.failure?

/-- The lines of the log down to a level. -/
def lines (eventsShown : Bool) (threshold : Level) (journal : Journal) : List String :=
  ((journal.filterMap (Record.notice? eventsShown)).filter fun notice =>
    notice.level.shownAt threshold).map Notice.line

@[simp] theorem events_append (left right : Journal) :
    events (left ++ right) = events left ++ events right := by
  simp [events]

@[simp] theorem calls_append (left right : Journal) :
    calls (left ++ right) = calls left ++ calls right := by
  simp [calls]

@[simp] theorem failures_append (left right : Journal) :
    failures (left ++ right) = failures left ++ failures right := by
  simp [failures]

end Journal

end Rover
