import Rover.Text.Blank

/-!
# Commands

The closed vocabulary that an operator composes into a program. A command has one name, and
an entry names it in any case and with any use of the separators.
-/

namespace Rover

/-- One symbolic action of a program. `placeholder` has no effect and cannot be entered;
`done` ends an entered program. -/
inductive Command where
  | placeholder
  | songAndDance
  | moveForward
  | moveBackward
  | stopMotors
  | wait
  | turnRight
  | turnLeft
  | ledOn
  | ledOff
  | getTemperature
  | done
  deriving DecidableEq, Repr, Inhabited

namespace Command

/-- Every command that an operator can enter, in the order of the menu. -/
def vocabulary : List Command :=
  [.songAndDance, .moveForward, .moveBackward, .stopMotors, .wait, .turnRight, .turnLeft,
   .ledOn, .ledOff, .getTemperature, .done]

/-- Every command. -/
def all : List Command := .placeholder :: vocabulary

/-- The name of a command, as a program's trace shows it. -/
def name : Command → String
  | .placeholder => "NONE"
  | .songAndDance => "SONG_AND_DANCE"
  | .moveForward => "MOVE_FORWARD"
  | .moveBackward => "MOVE_BACKWARD"
  | .stopMotors => "STOP_MOTORS"
  | .wait => "WAIT"
  | .turnRight => "TURN_RIGHT"
  | .turnLeft => "TURN_LEFT"
  | .ledOn => "LED_ON"
  | .ledOff => "LED_OFF"
  | .getTemperature => "GET_TEMPERATURE"
  | .done => "DONE"

/-- The command of that exact name. -/
def ofName? (name : String) : Option Command := all.find? fun command => command.name = name

/-- Whether a character may stand anywhere in an entry without changing its meaning. -/
def isSeparator (char : Char) : Bool := char = '_' || char = '-' || char = ' '

/-- What is left of a spelling when separators and the case of ASCII letters are ignored. -/
def plain (spelling : List Char) : List Char :=
  (spelling.filter fun char => !isSeparator char).map Char.toLower

/-- What the entries of each command come down to. -/
def keys : List (String × Command) :=
  [("songanddance", .songAndDance), ("moveforward", .moveForward),
   ("movebackward", .moveBackward), ("stopmotors", .stopMotors), ("wait", .wait),
   ("turnright", .turnRight), ("turnleft", .turnLeft), ("ledon", .ledOn), ("ledoff", .ledOff),
   ("gettemperature", .getTemperature), ("done", .done)]

/-- The command that an entry between blanks names. -/
def ofSpelling? (spelling : List Char) : Option Command :=
  (keys.find? fun entry => entry.1.toList = plain spelling).map Prod.snd

end Command

/-- An entry that names no command, without the blanks around it. -/
structure UnknownCommand where
  text : String
  deriving DecidableEq, Repr

namespace UnknownCommand

/-- What the operator is told. -/
def message (unknown : UnknownCommand) : String :=
  "unrecognized command '" ++ unknown.text ++ "'"

end UnknownCommand

/-- Reads an entry as a command of the vocabulary. -/
def Command.ofEntry (raw : String) : Except UnknownCommand Command :=
  match Command.ofSpelling? (Text.trim raw.toList) with
  | some command => .ok command
  | none => .error ⟨String.ofList (Text.trim raw.toList)⟩

end Rover
