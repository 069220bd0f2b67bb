import Rover.Decimal.Shortest

/-!
# Writing numbers

Two ways to write a number: with the shortest digits that read back, under a layout that
says when an exponent is used, and with a fixed count of places after the point.
-/

namespace Rover

/-- How the shortest digits of a number are laid out. -/
structure Layout where
  /-- Where an exact half between two shortest candidates goes. -/
  tie : Tie
  /-- The powers of ten of the leading digit that are written without an exponent, first
  and last; without a pair all are. -/
  positional : Option (Int × Int)
  /-- What is written after a whole number in positional form. -/
  wholeSuffix : String

namespace Layout

/-- The layout of messages: never an exponent, and a whole number without a point. -/
def message : Layout := ⟨.up, none, ""⟩

/-- The layout of the data format: from 0.00001 up to below ten to the power 16 without an
exponent, and a whole number with one zero after the point. -/
def data : Layout := ⟨.toEven, some (-5, 15), ".0"⟩

/-- Whether a leading digit at this power of ten is written without an exponent. -/
def isPositional (layout : Layout) (leading : Int) : Bool :=
  match layout.positional with
  | none => true
  | some (first, last) => first ≤ leading && leading ≤ last

end Layout

/-- Digits without the zeros at their end, which the exponent can carry. -/
def significantDigits (value : Nat) : List Char :=
  ((digits value).reverse.dropWhile (· == '0')).reverse

/-- A row of zeros. -/
def zeros (count : Nat) : List Char := List.replicate count '0'

/-- Writes significant digits whose first one stands at the power `leading` of ten. -/
def placeDigits (suffix : String) (row : List Char) (leading : Int) : List Char :=
  if leading < 0 then
    "0.".toList ++ zeros (-leading - 1).toNat ++ row
  else
    let whole := leading.toNat + 1
    if row.length ≤ whole then row ++ zeros (whole - row.length) ++ suffix.toList
    else row.take whole ++ '.' :: row.drop whole

/-- Writes significant digits with an exponent, one digit before the point. The exponent always
carries its sign and is not padded. -/
def scientific (row : List Char) (leading : Int) : List Char :=
  let mantissa := match row with
    | first :: second :: rest => first :: '.' :: second :: rest
    | single => single
  let exponent := digits leading.natAbs
  mantissa ++ 'e' :: (if leading < 0 then '-' else '+') :: exponent

/-- Writes a finite magnitude under a layout. -/
def Layout.magnitude (layout : Layout) (rank : Rank) : List Char :=
  if rank = .zero then '0' :: layout.wholeSuffix.toList
  else
    let decimal := rank.shortest layout.tie
    let row := significantDigits decimal.significand
    let leading := decimal.exponent + (digits decimal.significand).length - 1
    if layout.isPositional leading then placeDigits layout.wholeSuffix row leading
    else scientific row leading

/-- A minus sign where one is due. -/
def signMark (negative : Bool) : List Char := if negative then ['-'] else []

namespace Binary64

/-- Writes a value under a layout, the special values as words. -/
def write (layout : Layout) : Binary64 → List Char
  | .nan => "NaN".toList
  | .number negative rank =>
    signMark negative ++ if rank = .infinity then "inf".toList else layout.magnitude rank

/-- The value as it stands in a message. -/
def text (value : Binary64) : String := String.ofList (value.write .message)

/-- The value as it stands in the data format, which has a word of its own for what is not a
finite number. -/
def dataText (value : Binary64) : String :=
  if value.isFinite then String.ofList (value.write .data) else "null"

/-- The value with a fixed count of places after the point, at least one. The exact value
is rounded, a half goes to the even neighbour, and a negative value that rounds to zero
keeps its sign. -/
def fixed (places : Nat) : Binary64 → String
  | .nan => "NaN"
  | .number negative rank =>
    let body :=
      if rank = .infinity then "inf".toList
      else
        let row := digits (Tie.toEven.round (rank.units * tenTo places) unitsPerOne)
        let row := zeros (places + 1 - row.length) ++ row
        row.take (row.length - places) ++ '.' :: row.drop (row.length - places)
    String.ofList (signMark negative ++ body)

end Binary64

end Rover
