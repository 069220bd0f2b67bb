import Rover.World

/-!
# Deeds of a journal

A journal also keeps lines of the log and passings of time. Its deeds are what the outside can
tell apart: the calls that were tried, with their failures, and the events.
-/

namespace Rover

namespace Record

/-- Whether an entry is a call or an event. -/
def isDeed : Record → Bool
  | .call .. | .event _ => true
  | .notice _ | .pause _ => false

/-- The call of an entry together with its failure, if it failed. -/
def attempt? : Record → Option (Call × Option DeviceError)
  | .call tried failure => some (tried, failure)
  | _ => none

/-- The entry of a call that was tried. -/
def ofAttempt (attempt : Call × Option DeviceError) : Record := .call attempt.1 attempt.2

attribute [simp] isDeed attempt? event? call?

end Record

namespace Journal

/-- The calls and the events, in order. -/
def deeds (journal : Journal) : Journal := journal.filter Record.isDeed

/-- The calls that were tried together with their failures, in order. -/
def attempts (journal : Journal) : List (Call × Option DeviceError) :=
  journal.filterMap Record.attempt?

@[simp] theorem deeds_nil : deeds [] = [] := rfl

@[simp] theorem deeds_cons (entry : Record) (rest : Journal) :
    deeds (entry :: rest) = if entry.isDeed then entry :: deeds rest else deeds rest := by
  simp [deeds, List.filter_cons]

@[simp] theorem deeds_append (left right : Journal) :
    deeds (left ++ right) = deeds left ++ deeds right := by
  simp [deeds]

@[simp] theorem deeds_notices (notices : List Notice) :
    deeds (notices.map Record.notice) = [] := by
  induction notices with
  | nil => rfl
  | cons notice rest ih => simpa using ih

@[simp] theorem deeds_pauseRecords (nanoseconds : Nat) :
    deeds (World.pauseRecords nanoseconds) = [] := by
  rw [World.pauseRecords]
  split <;> rfl

@[simp] theorem attempts_nil : attempts [] = [] := rfl

@[simp] theorem attempts_cons (entry : Record) (rest : Journal) :
    attempts (entry :: rest) = entry.attempt?.toList ++ attempts rest := by
  cases entry <;> rfl

@[simp] theorem attempts_append (left right : Journal) :
    attempts (left ++ right) = attempts left ++ attempts right := by
  simp [attempts]

@[simp] theorem attempts_map_event (happened : List Event) :
    attempts (happened.map Record.event) = [] := by
  induction happened with
  | nil => rfl
  | cons event rest ih => simpa using ih

@[simp] theorem events_nil : events [] = [] := rfl

@[simp] theorem events_cons (entry : Record) (rest : Journal) :
    events (entry :: rest) = entry.event?.toList ++ events rest := by
  cases entry <;> rfl

@[simp] theorem events_map_event (happened : List Event) :
    events (happened.map Record.event) = happened := by
  induction happened with
  | nil => rfl
  | cons event rest ih => simpa using ih

@[simp] theorem events_map_ofAttempt (tried : List (Call × Option DeviceError)) :
    events (tried.map Record.ofAttempt) = [] := by
  induction tried with
  | nil => rfl
  | cons attempt rest ih => simpa [Record.ofAttempt] using ih

@[simp] theorem calls_nil : calls [] = [] := rfl

@[simp] theorem calls_cons (entry : Record) (rest : Journal) :
    calls (entry :: rest) = entry.call?.toList ++ calls rest := by
  cases entry <;> rfl

@[simp] theorem calls_map_event (happened : List Event) :
    calls (happened.map Record.event) = [] := by
  induction happened with
  | nil => rfl
  | cons event rest ih => simpa using ih

@[simp] theorem calls_map_ofAttempt (tried : List (Call × Option DeviceError)) :
    calls (tried.map Record.ofAttempt) = tried.map Prod.fst := by
  induction tried with
  | nil => rfl
  | cons attempt rest ih => simpa [Record.ofAttempt] using ih

/-- Every event is a deed. -/
@[simp] theorem events_deeds (journal : Journal) : journal.deeds.events = journal.events := by
  induction journal with
  | nil => rfl
  | cons entry rest ih => cases entry <;> simp [ih]

/-- Every call is a deed. -/
@[simp] theorem attempts_deeds (journal : Journal) :
    journal.deeds.attempts = journal.attempts := by
  induction journal with
  | nil => rfl
  | cons entry rest ih => cases entry <;> simp [ih]

theorem map_fst_attempts (journal : Journal) :
    journal.attempts.map Prod.fst = journal.calls := by
  induction journal with
  | nil => rfl
  | cons entry rest ih => cases entry <;> simp [ih]

/-- Without a deed there is neither a call nor an event. -/
theorem calls_events_of_deeds {journal : Journal} (empty : journal.deeds = []) :
    journal.calls = [] ∧ journal.events = [] := by
  constructor
  · rw [← map_fst_attempts, ← attempts_deeds, empty]
    rfl
  · rw [← events_deeds, empty]
    rfl

end Journal

end Rover
