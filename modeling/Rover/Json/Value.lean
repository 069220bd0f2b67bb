/-!
# Values of the data format

A text of the data format is read into a value before anything is asked of it. Numbers keep
the digits as they are written, because what they mean depends on the type that is asked for,
and a string may hold escapes that form no text.
-/

namespace Rover.Json

/-- A number as it is written: its sign and its rows of decimal digits. Without a point the
fraction has no digits. -/
structure Numeral where
  negative : Bool
  whole : List Char
  fraction : List Char
  /-- The digits of the exponent and whether it is negative. -/
  exponent : Option (Bool × List Char)
  deriving DecidableEq, Repr

/-- A value. The members of an object stand in the order of the text, repeated names
included. A string without content holds half of a surrogate pair. -/
inductive Value where
  | null
  | bool (value : Bool)
  | number (numeral : Numeral)
  | string (content : Option (List Char))
  | array (elements : List Value)
  | object (members : List (Option (List Char) × Value))

end Rover.Json
