/-!
# Command-line arguments

The arguments are options with values, one flag, and the two requests that end everything. They
are read from left to right, and the first one that cannot be understood makes the whole line a
misuse, unless a request came before it.
-/

namespace Rover.CommandLine

/-- An option that takes a value. -/
inductive Setting where
  | config
  | program
  | speed
  | brightness
  | wait
  | monitor
  | sensor
  | range
  | threshold
  | duration
  deriving DecidableEq, Repr

namespace Setting

/-- Every option that takes a value. -/
def all : List Setting :=
  [.config, .program, .speed, .brightness, .wait, .monitor, .sensor, .range, .threshold,
   .duration]

/-- The name after the two dashes. -/
def name : Setting → String
  | .config => "config"
  | .program => "program"
  | .speed => "speed"
  | .brightness => "brightness"
  | .wait => "wait"
  | .monitor => "monitor"
  | .sensor => "sensor"
  | .range => "range"
  | .threshold => "threshold"
  | .duration => "duration"

/-- The option of that name. -/
def ofName? (name : List Char) : Option Setting :=
  all.find? fun setting => setting.name.toList = name

/-- Whether the word after the option is its value even if it starts with a dash, as a
negative number does. -/
def takesDashes : Setting → Bool
  | .speed | .threshold => true
  | _ => false

/-- The value of an option that is not given, if it has one. -/
def fallback? : Setting → Option String
  | .config => some "finchcontrol.json"
  | .sensor => some "both"
  | .range => some "maximum"
  | .threshold => some "50"
  | .duration => some "10"
  | .program | .speed | .brightness | .wait | .monitor => none

/-- Whether an option can have a value at all. What the value means is looked at later, except
for the kind of monitor, which is one of two words, and the path, which is not empty. -/
def allows : Setting → String → Bool
  | .monitor, value => value = "light" || value = "temperature"
  | .config, value => value ≠ ""
  | _, _ => true

end Setting

/-- What the arguments of a run say. -/
structure Arguments where
  given : List (Setting × String) := []
  realtime : Bool := false
  deriving DecidableEq, Repr

namespace Arguments

/-- The value that was given for an option. -/
def value? (arguments : Arguments) (setting : Setting) : Option String :=
  (arguments.given.find? fun pair => pair.1 = setting).map Prod.snd

/-- The value of an option that always has one. -/
def value (arguments : Arguments) (setting : Setting) : String :=
  ((arguments.value? setting).or setting.fallback?).getD ""

/-- Adds the value of an option, which may be given once. -/
def add (arguments : Arguments) (setting : Setting) (value : String) : Option Arguments :=
  if (arguments.value? setting).isSome || !setting.allows value then none
  else some { arguments with given := arguments.given ++ [(setting, value)] }

/-- Adds the flag, which may be given once. -/
def addRealtime (arguments : Arguments) : Option Arguments :=
  if arguments.realtime then none else some { arguments with realtime := true }

end Arguments

/-- What a command line asks for. -/
inductive Request where
  | run (arguments : Arguments)
  | version
  | help
  | misuse
  deriving DecidableEq, Repr

/-- The shape of one word of the command line. -/
inductive Word where
  /-- Two dashes and a name, with the value after an equals sign if there is one. -/
  | long (name : List Char) (attached : Option String)
  /-- One dash and letters, of which only the first matters here. -/
  | short (letter : Char)
  /-- Two dashes alone: no option follows. -/
  | separator
  | plain
  deriving DecidableEq, Repr

namespace Word

/-- Splits a long option at its first equals sign. -/
def splitLong (chars : List Char) : Word :=
  let name := chars.takeWhile (· != '=')
  match chars.dropWhile (· != '=') with
  | [] => .long name none
  | _ :: value => .long name (some (String.ofList value))

/-- The shape of a word. A single dash is a plain word. -/
def ofChars : List Char → Word
  | ['-', '-'] => .separator
  | '-' :: '-' :: rest => splitLong rest
  | '-' :: letter :: _ => .short letter
  | _ => .plain

/-- The shape of a word. -/
def ofString (word : String) : Word := ofChars word.toList

end Word

namespace Request

/-- Reads the words that remain, after others have given `arguments`. -/
def parseFrom : List String → Arguments → Request
  | [], arguments => .run arguments
  | word :: rest, arguments =>
    match Word.ofString word with
    | .plain => .misuse
    | .separator => if rest = [] then .run arguments else .misuse
    | .short letter => if letter = 'V' then .version else if letter = 'h' then .help else .misuse
    | .long name none =>
      if name = "version".toList then .version
      else if name = "help".toList then .help
      else if name = "realtime".toList then
        match arguments.addRealtime with
        | some arguments => parseFrom rest arguments
        | none => .misuse
      else match Setting.ofName? name, rest with
        | some setting, value :: rest =>
          if setting.takesDashes || Word.ofString value = .plain then
            match arguments.add setting value with
            | some arguments => parseFrom rest arguments
            | none => .misuse
          else .misuse
        | _, _ => .misuse
    | .long name (some value) =>
      match Setting.ofName? name with
      | some setting =>
        match arguments.add setting value with
        | some arguments => parseFrom rest arguments
        | none => .misuse
      | none => .misuse
termination_by words => words.length

/-- Reads a whole command line. -/
def parse (words : List String) : Request := parseFrom words {}

end Request

end Rover.CommandLine
