/-!
# Writing records

A record is written as an object of its fields in order, on one line or with one field to a
line. Field names and field values come as text of the data format.
-/

namespace Rover.Json

/-- A name or a word as a string. It holds no character that would have to be escaped. -/
def quoted (word : String) : String := "\"" ++ word ++ "\""

/-- An object on one line, without blanks. -/
def compact (fields : List (String × String)) : String :=
  "\x7b" ++ ",".intercalate (fields.map fun field => quoted field.1 ++ ":" ++ field.2) ++ "\x7d"

/-- An object with one field to a line, set in by two blanks; there is at least one field. -/
def spread (fields : List (String × String)) : String :=
  "\x7b\n" ++
  ",\n".intercalate (fields.map fun field => "  " ++ quoted field.1 ++ ": " ++ field.2) ++
  "\n\x7d"

end Rover.Json
