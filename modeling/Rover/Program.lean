import Rover.Command
import Rover.Text.Pieces

/-!
# Programs and their builder

A program is a row of commands that runs in order. An operator builds one entry by entry
and closes it with `done`; a closed program takes no further entry.
-/

namespace Rover

/-- A row of commands in the order of execution. -/
abbrev Program := List Command

/-- What became of an accepted entry. -/
inductive Program.Step where
  | appended (command : Command)
  | closed
  deriving DecidableEq, Repr

/-- Why an entry is refused. The program stays as it was. -/
inductive ProgramError where
  | unknown (error : UnknownCommand)
  | closed
  deriving DecidableEq, Repr

namespace ProgramError

/-- What the operator is told. -/
def message : ProgramError → String
  | .unknown error => error.message
  | .closed => "program already closed"

end ProgramError

namespace Program

/-- A program that is being entered. -/
structure Builder where
  commands : Program := []
  closed : Bool := false
  deriving DecidableEq, Repr, Inhabited

namespace Builder

/-- A builder without entries. -/
def empty : Builder := {}

/-- Adds a command at the end; `done` closes the program instead. -/
def push (builder : Builder) (command : Command) : Except ProgramError Step × Builder :=
  if builder.closed then (.error .closed, builder)
  else if command = .done then (.ok .closed, { builder with closed := true })
  else (.ok (.appended command), { builder with commands := builder.commands ++ [command] })

/-- Adds the command that an entry names. A closed program refuses every entry, whatever it
says. -/
def enter (builder : Builder) (raw : String) : Except ProgramError Step × Builder :=
  if builder.closed then (.error .closed, builder)
  else match Command.ofEntry raw with
    | .error unknown => (.error (.unknown unknown), builder)
    | .ok command => builder.push command

/-- The program as it was entered so far, closed or not. -/
def finish (builder : Builder) : Program := builder.commands

end Builder

/-- Enters the texts in order and stops at the first that closes the program or is refused. -/
def Builder.enterAll : List String → Builder → Except ProgramError Program
  | [], builder => .ok builder.finish
  | raw :: rest, builder =>
    match builder.enter raw with
    | (.error error, _) => .error error
    | (.ok .closed, builder) => .ok builder.finish
    | (.ok (.appended _), builder) => enterAll rest builder

/-- The entries of a text with commas between them, without the blanks around each and
without the empty ones. -/
def entries (text : String) : List String :=
  (((Text.pieces ',' text.toList).map Text.trim).filter fun entry => !entry.isEmpty).map
    String.ofList

/-- Reads a program from a text of entries with commas between them. -/
def ofText (text : String) : Except ProgramError Program :=
  Builder.enterAll (entries text) .empty

end Program

end Rover
