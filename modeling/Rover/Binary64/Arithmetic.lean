import Rover.Binary64.Basic

/-!
# Arithmetic

Every operation computes the exact result in units and rounds it once to the nearest
number. Infinities, zeros and `nan` are settled first.
-/

namespace Rover.Binary64

/-- A number of units with its sign. -/
def signedUnits (negative : Bool) (rank : Rank) : Int :=
  if negative then -(rank.units : Int) else rank.units

/-- Sum. An exact zero is positive unless both summands are negative. -/
def add : Binary64 → Binary64 → Binary64
  | .number negative rank, .number negative' rank' =>
    if rank = .infinity then
      if rank' = .infinity ∧ negative ≠ negative' then .nan else .infinity negative
    else if rank' = .infinity then .infinity negative'
    else
      let total := signedUnits negative rank + signedUnits negative' rank'
      if total = 0 then .number (negative && negative') .zero
      else .number (decide (total < 0)) (.nearest total.natAbs 1)
  | _, _ => .nan

/-- Product. Zero times infinity stands for no number. -/
def mul : Binary64 → Binary64 → Binary64
  | .number negative rank, .number negative' rank' =>
    if rank = .infinity ∨ rank' = .infinity then
      if rank = .zero ∨ rank' = .zero then .nan else .infinity (negative != negative')
    else .number (negative != negative') (.nearest (rank.units * rank'.units) unitsPerOne)
  | _, _ => .nan

/-- Quotient. Zero by zero and infinity by infinity stand for no number. -/
def div : Binary64 → Binary64 → Binary64
  | .number negative rank, .number negative' rank' =>
    if rank = .infinity then
      if rank' = .infinity then .nan else .infinity (negative != negative')
    else if rank' = .infinity then .number (negative != negative') .zero
    else if rank' = .zero then
      if rank = .zero then .nan else .infinity (negative != negative')
    else .number (negative != negative') (.nearest (rank.units * unitsPerOne) rank'.units)
  | _, _ => .nan

/-- The greatest whole number not above the value. The sign of zero stays. -/
def floor : Binary64 → Binary64
  | .nan => .nan
  | .number negative rank =>
    if rank = .infinity then .infinity negative
    else if negative then
      ofRatio true ((rank.units + unitsPerOne - 1) / unitsPerOne) 1
    else ofRatio false (rank.units / unitsPerOne) 1

/-- The nearest whole number, a half going away from zero. The sign stays. -/
def round : Binary64 → Binary64
  | .nan => .nan
  | .number negative rank =>
    if rank = .infinity then .infinity negative
    else ofRatio negative (Tie.up.round rank.units unitsPerOne) 1

/-- The whole part as a 32-bit word. What lies outside of the word's range goes to the
nearer end, and `nan` to zero. -/
def toUInt32 : Binary64 → UInt32
  | .nan => 0
  | .number negative rank =>
    if negative then 0
    else UInt32.ofNat (min (rank.units / unitsPerOne) 0xffffffff)

/-- The nearest whole number of a `parts`-th part of one, a half going to the even
neighbour; nothing for what is not a finite number. The sign is dropped. -/
def nearestParts (parts : Nat) : Binary64 → Option Nat
  | .nan => none
  | .number _ rank =>
    if rank = .infinity then none
    else some (Tie.toEven.round (rank.units * parts) unitsPerOne)

end Rover.Binary64
