import Rover.CommandLine.Run

/-!
# The program

Reads the stored configuration, does the run and shows its journal. The lines are shown and the
pauses are slept through in the order in which they happened.
-/

namespace Rover.CommandLine

/-- What is stored at a path. -/
def storedAt (path : String) : IO Config.Stored := do
  try
    return .ofBytes (← IO.FS.readBinFile path)
  catch failure =>
    match failure with
    | .noFileOrDirectory .. => return .absent
    | .inappropriateType .. => return .directory
    | other => return .blocked (toString other)

/-- Shows one entry of the journal, or sleeps through it. -/
def play (record : Record) : IO Unit := do
  match record with
  | .pause nanoseconds => IO.sleep (UInt32.ofNat (nanoseconds / oneMillisecond))
  | _ =>
    for line in Journal.lines true .info [record] do
      IO.eprintln line

end Rover.CommandLine

open Rover.CommandLine in
/-- Runs one command line. -/
def main (words : List String) : IO UInt32 := do
  let request := Request.parse words
  let stored ← match request with
    | .run arguments => storedAt (arguments.value .config)
    | _ => pure .absent
  let outcome := answer stored request
  IO.print outcome.output
  match outcome.report with
  | none => pure ()
  | some report =>
    for record in report.journal do
      play record
    for line in (report.failure.map Failure.lines).getD [] do
      IO.eprintln line
  return UInt32.ofNat outcome.exitCode
