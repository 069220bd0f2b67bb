import Rover.Json.Number
import Rover.Json.Reader

/-!
# Decoding values

A decoder gives the value of a type that a value of the data format stands for, or nothing.
-/

namespace Rover.Json

/-- A way to take a value of the data format for one of a type. -/
abbrev Decoder (α : Type) := Value → Option α

/-- A whole number between two bounds, both included. -/
def Decoder.whole (least greatest : Int) : Decoder Int
  | .number numeral => numeral.toInt?.bind fun value =>
    if least ≤ value ∧ value ≤ greatest then some value else none
  | _ => none

/-- A signed 16-bit word. -/
def Decoder.int16 : Decoder Int16 := fun value =>
  (Decoder.whole (-32768) 32767 value).map Int16.ofInt

/-- A signed 32-bit word. -/
def Decoder.int32 : Decoder Int32 := fun value =>
  (Decoder.whole (-2147483648) 2147483647 value).map Int32.ofInt

/-- An unsigned 8-bit word. -/
def Decoder.uint8 : Decoder UInt8 := fun value =>
  (Decoder.whole 0 255 value).map fun whole => UInt8.ofNat whole.toNat

/-- An unsigned 32-bit word. -/
def Decoder.uint32 : Decoder UInt32 := fun value =>
  (Decoder.whole 0 4294967295 value).map fun whole => UInt32.ofNat whole.toNat

/-- A number of the binary format, which may be written as a whole number. -/
def Decoder.binary64 : Decoder Binary64
  | .number numeral => numeral.toBinary64?
  | _ => none

/-- One of a list of named choices: its name, or an object of that one name whose value is
null. -/
def Decoder.choice {α : Type} (choices : List (String × α)) : Decoder α
  | .string (some name)
  | .object [(some name, .null)] =>
    (choices.find? fun option => option.1.toList = name).map Prod.snd
  | _ => none

/-- The member of an object with the given name, or the fallback where there is none. A name
that occurs twice is refused. -/
def member {α : Type} (decoder : Decoder α) (fallback : Option α) (name : String)
    (members : List (Option (List Char) × Value)) : Option α :=
  match members.filter fun candidate => candidate.1 = some name.toList with
  | [] => fallback
  | [found] => decoder found.2
  | _ => none

/-- The element of an array at the given place, or the fallback where there is none. -/
def element {α : Type} (decoder : Decoder α) (fallback : Option α) (index : Nat)
    (elements : List Value) : Option α :=
  match elements[index]? with
  | some value => decoder value
  | none => fallback

/-- The two forms of a record: an object of named members, or an array of its fields in
order. -/
inductive Form where
  | named (members : List (Option (List Char) × Value))
  | listed (elements : List Value)

/-- The form of a record of the given number of fields. Every name has to be a text, and an
array has no more elements than the record has fields. -/
def form? (fieldCount : Nat) : Value → Option Form
  | .object members => if members.all (·.1.isSome) then some (.named members) else none
  | .array elements => if elements.length ≤ fieldCount then some (.listed elements) else none
  | _ => none

/-- A field of a record, by its name or by its place. -/
def Form.field {α : Type} (form : Form) (index : Nat) (name : String) (decoder : Decoder α)
    (fallback : Option α) : Option α :=
  match form with
  | .named members => member decoder fallback name members
  | .listed elements => element decoder fallback index elements

/-- Reads a text and decodes its value. -/
def decode? {α : Type} (decoder : Decoder α) (text : String) : Option α :=
  (read? text.toList).bind decoder

end Rover.Json
