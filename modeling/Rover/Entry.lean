import Rover.Decimal.Printer
import Rover.Decimal.Reader
import Rover.Text.Blank

/-!
# Operator entries

An entry is a text that an operator types where a number in a range or one of a few words is
asked for. It may stand between blanks. A refused entry says why, and stores nothing.
-/

namespace Rover

/-- Why an entry is refused. -/
inductive EntryError where
  | notANumber
  | outOfRange (least greatest : Binary64)
  | unknownChoice
  deriving DecidableEq

namespace EntryError

/-- What the operator is told. -/
def message : EntryError → String
  | .notANumber => "not a number"
  | .outOfRange least greatest =>
    "value must be between " ++ least.text ++ " and " ++ greatest.text
  | .unknownChoice => "not one of the listed choices"

end EntryError

/-- A kind of number that can be entered: how it is read, how it is compared with a bound,
and how a bound is shown when an entry is refused. -/
class EntryNumber (α : Type) where
  read : List Char → Option α
  atMost : α → α → Bool
  shown : α → Binary64

/-- Reads a whole number: decimal digits after an optional plus sign or, where numbers below
zero exist, an optional minus sign. -/
def readWhole (signed : Bool) : List Char → Option Int
  | '+' :: rest => (readDigits rest).map Int.ofNat
  | '-' :: rest =>
    if signed then (readDigits rest).map fun value => -(Int.ofNat value) else none
  | chars => (readDigits chars).map Int.ofNat

/-- Keeps a number that lies between two bounds, both included. -/
def keepWithin (least greatest value : Int) : Option Int :=
  if least ≤ value ∧ value ≤ greatest then some value else none

instance : EntryNumber Int16 where
  read chars := ((readWhole true chars).bind (keepWithin (-32768) 32767)).map Int16.ofInt
  atMost left right := decide (left ≤ right)
  shown value := .ofInt value.toInt

instance : EntryNumber Int32 where
  read chars :=
    ((readWhole true chars).bind (keepWithin (-2147483648) 2147483647)).map Int32.ofInt
  atMost left right := decide (left ≤ right)
  shown value := .ofInt value.toInt

instance : EntryNumber UInt8 where
  read chars := ((readWhole false chars).bind (keepWithin 0 255)).map fun value =>
    UInt8.ofNat value.toNat
  atMost left right := decide (left ≤ right)
  shown value := .ofNat value.toNat

instance : EntryNumber UInt32 where
  read chars := ((readWhole false chars).bind (keepWithin 0 4294967295)).map fun value =>
    UInt32.ofNat value.toNat
  atMost left right := decide (left ≤ right)
  shown value := .ofNat value.toNat

instance : EntryNumber Binary64 where
  read := Binary64.read
  atMost := Binary64.atMost
  shown value := value

namespace Entry

/-- Accepts a number between two bounds, both included. The bounds are not compared with
each other: reversed ones refuse every number. -/
def inRange {α : Type} [EntryNumber α] (least greatest : α) (raw : String) :
    Except EntryError α :=
  match EntryNumber.read (Text.trim raw.toList) with
  | none => .error .notANumber
  | some value =>
    if EntryNumber.atMost least value && EntryNumber.atMost value greatest then .ok value
    else .error (.outOfRange (EntryNumber.shown least) (EntryNumber.shown greatest))

/-- Accepts one of the listed words, in any case of its ASCII letters. -/
def choice {α : Type} (choices : List (String × α)) (raw : String) : Except EntryError α :=
  let word := (Text.trim raw.toList).map Char.toLower
  match choices.find? fun option => option.1.toList = word with
  | some option => .ok option.2
  | none => .error .unknownChoice

end Entry

end Rover
