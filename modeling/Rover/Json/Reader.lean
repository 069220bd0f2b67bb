import Rover.Decimal.Reader
import Rover.Json.Value

/-!
# Reading the data format

Each reader takes a text and gives what it reads from the start of it together with the rest.
There is one value to a text, and only blanks around it.
-/

namespace Rover.Json

/-- The blanks of the data format. -/
def isBlank (char : Char) : Bool :=
  char = ' ' || char = '\n' || char = '\t' || char = '\r'

/-- The text from its first character that is not blank. -/
def skipBlanks (chars : List Char) : List Char := chars.dropWhile isBlank

/-- The value of a hexadecimal digit, in either case. -/
def hexValue? (char : Char) : Option Nat :=
  if char.isDigit then some (digitValue char)
  else if 'a' ≤ char ∧ char ≤ 'f' then some (char.toNat - 'a'.toNat + 10)
  else if 'A' ≤ char ∧ char ≤ 'F' then some (char.toNat - 'A'.toNat + 10)
  else none

/-- The code unit that four hexadecimal digits write. -/
def codeUnit? (first second third fourth : Char) : Option Nat := do
  let first ← hexValue? first
  let second ← hexValue? second
  let third ← hexValue? third
  let fourth ← hexValue? fourth
  pure (((first * 16 + second) * 16 + third) * 16 + fourth)

/-- The character of an escape of one letter. -/
def escaped? (char : Char) : Option Char :=
  match char with
  | '"' => some '"'
  | '\\' => some '\\'
  | '/' => some '/'
  | 'b' => some '\x08'
  | 'f' => some '\x0c'
  | 'n' => some '\n'
  | 'r' => some '\r'
  | 't' => some '\t'
  | _ => none

/-- What stands for one place of a string: a character, or a code unit written by an escape,
which may be half of a surrogate pair. -/
inductive Place where
  | char (value : Char)
  | unit (value : Nat)
  deriving DecidableEq, Repr

/-- Reads the places of a string up to its closing quote, whose opening quote is gone. -/
def readPlaces : List Char → Option (List Place × List Char)
  | [] => none
  | '"' :: rest => some ([], rest)
  | '\\' :: 'u' :: first :: second :: third :: fourth :: rest => do
    let value ← codeUnit? first second third fourth
    let (places, rest) ← readPlaces rest
    pure (.unit value :: places, rest)
  | '\\' :: letter :: rest => do
    let value ← escaped? letter
    let (places, rest) ← readPlaces rest
    pure (.char value :: places, rest)
  | char :: rest =>
    if char.toNat < 0x20 ∨ char = '\\' then none
    else do
      let (places, rest) ← readPlaces rest
      pure (.char char :: places, rest)

/-- Whether a code unit is the first half of a surrogate pair. -/
def isHighSurrogate (unit : Nat) : Bool := 0xd800 ≤ unit && unit < 0xdc00

/-- Whether a code unit is the second half of a surrogate pair. -/
def isLowSurrogate (unit : Nat) : Bool := 0xdc00 ≤ unit && unit < 0xe000

/-- The text of a row of places, if every surrogate half stands in a pair. -/
def textOfPlaces : List Place → Option (List Char)
  | [] => some []
  | .char value :: rest => (textOfPlaces rest).map (value :: ·)
  | .unit high :: .unit low :: rest =>
    if isHighSurrogate high then
      if isLowSurrogate low then
        (textOfPlaces rest).map
          (Char.ofNat (0x10000 + (high - 0xd800) * 0x400 + (low - 0xdc00)) :: ·)
      else none
    else if isLowSurrogate high then none
    else (textOfPlaces (.unit low :: rest)).map (Char.ofNat high :: ·)
  | .unit value :: rest =>
    if isHighSurrogate value || isLowSurrogate value then none
    else (textOfPlaces rest).map (Char.ofNat value :: ·)

/-- Reads a string whose opening quote is gone. -/
def readString (chars : List Char) : Option (Option (List Char) × List Char) :=
  (readPlaces chars).map fun (places, rest) => (textOfPlaces places, rest)

/-- The digits after a point, at least one; without a point there are none. -/
def readNumeralFraction : List Char → Option (List Char × List Char)
  | '.' :: rest =>
    let (fraction, rest) := spanDigits rest
    if fraction = [] then none else some (fraction, rest)
  | chars => some ([], chars)

/-- The exponent, at least one digit after its mark. -/
def readNumeralExponent : List Char → Option (Option (Bool × List Char) × List Char)
  | [] => some (none, [])
  | char :: rest =>
    if char = 'e' ∨ char = 'E' then
      let (negative, rest) := readSign rest
      let (exponent, rest) := spanDigits rest
      if exponent = [] then none else some (some (negative, exponent), rest)
    else some (none, char :: rest)

/-- Reads a number. Its whole part has no zero in front of another digit. -/
def readNumeral (chars : List Char) : Option (Numeral × List Char) := do
  let (negative, chars) := match chars with
    | '-' :: rest => (true, rest)
    | chars => (false, chars)
  let (whole, rest) := spanDigits chars
  if whole = [] ∨ (whole.head? = some '0' ∧ whole ≠ ['0']) then none
  else
    let (fraction, rest) ← readNumeralFraction rest
    let (exponent, rest) ← readNumeralExponent rest
    pure ({ negative, whole, fraction, exponent }, rest)

mutual

/-- Reads a value that starts with the first character. The fuel bounds the number of values
and list links that are entered one inside or after the other. -/
def readValue : Nat → List Char → Option (Value × List Char)
  | 0, _ => none
  | fuel + 1, chars =>
    match chars with
    | 'n' :: 'u' :: 'l' :: 'l' :: rest => some (.null, rest)
    | 't' :: 'r' :: 'u' :: 'e' :: rest => some (.bool true, rest)
    | 'f' :: 'a' :: 'l' :: 's' :: 'e' :: rest => some (.bool false, rest)
    | '"' :: rest => (readString rest).map fun (content, rest) => (.string content, rest)
    | '[' :: rest =>
      match skipBlanks rest with
      | ']' :: rest => some (.array [], rest)
      | rest => (readElements fuel rest).map fun (elements, rest) => (.array elements, rest)
    | '{' :: rest =>
      match skipBlanks rest with
      | '}' :: rest => some (.object [], rest)
      | rest => (readMembers fuel rest).map fun (members, rest) => (.object members, rest)
    | chars => (readNumeral chars).map fun (numeral, rest) => (.number numeral, rest)

/-- Reads the elements of an array and its closing bracket, one element at least. -/
def readElements : Nat → List Char → Option (List Value × List Char)
  | 0, _ => none
  | fuel + 1, chars => do
    let (value, rest) ← readValue fuel (skipBlanks chars)
    match skipBlanks rest with
    | ']' :: rest => pure ([value], rest)
    | ',' :: rest =>
      let (values, rest) ← readElements fuel rest
      pure (value :: values, rest)
    | _ => none

/-- Reads the members of an object and its closing brace, one member at least. -/
def readMembers : Nat → List Char → Option (List (Option (List Char) × Value) × List Char)
  | 0, _ => none
  | fuel + 1, chars =>
    match skipBlanks chars with
    | '"' :: rest => do
      let (key, rest) ← readString rest
      match skipBlanks rest with
      | ':' :: rest =>
        let (value, rest) ← readValue fuel (skipBlanks rest)
        match skipBlanks rest with
        | '}' :: rest => pure ([(key, value)], rest)
        | ',' :: rest =>
          let (members, rest) ← readMembers fuel rest
          pure ((key, value) :: members, rest)
        | _ => none
      | _ => none
    | _ => none

end

/-- Reads a whole text as one value. Every value and every link takes at least one character,
and between two values at most one link is entered, so the fuel is enough for every text. -/
def read? (chars : List Char) : Option Value :=
  match readValue (2 * chars.length + 1) (skipBlanks chars) with
  | some (value, rest) => if skipBlanks rest = [] then some value else none
  | none => none

end Rover.Json
