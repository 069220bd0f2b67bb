import Rover.Binary64.Arithmetic
import Rover.Entry
import Rover.Power
import Rover.World

/-!
# Temperature recordings

A recording takes a given number of temperatures at a fixed period. It can be paced by the
ticker, which may cut it short, or by waits of the robot, which only a fault can cut short. Room
for all its samples is reserved before the first one is taken, and a number of samples that there
can be no room for begins no recording.
-/

namespace Rover

/-- The temperatures of one recording, in the order in which they were taken. -/
structure Series where
  samples : Array Binary64
  requested : Nat
  deriving DecidableEq

namespace Series

/-- Whether every requested sample was taken. -/
def isComplete (series : Series) : Bool := series.samples.size = series.requested

/-- The average, summed in order. -/
def average? (series : Series) : Option Binary64 :=
  if series.samples.isEmpty then none
  else some
    ((series.samples.foldl Binary64.add .negativeZero).div (.ofNat series.samples.size))

/-- What is left when values are put together pairwise from the first on. -/
def reduce? (combine : Binary64 → Binary64 → Binary64) : List Binary64 → Option Binary64
  | [] => none
  | first :: rest => some (rest.foldl combine first)

/-- The lowest temperature. -/
def least? (series : Series) : Option Binary64 := reduce? .least series.samples.toList

/-- The highest temperature. -/
def greatest? (series : Series) : Option Binary64 := reduce? .greatest series.samples.toList

end Series

namespace Recording

/-- Accepts an entered number of samples. -/
def countOfEntry (raw : String) : Except EntryError UInt32 :=
  Entry.inRange (1 : UInt32) 1000 raw

/-- The shortest period in seconds that can be entered: one tenth. -/
def leastPeriod : Binary64 := .ofRatio false 1 10

/-- The longest period in seconds that can be entered: one hour. -/
def greatestPeriod : Binary64 := .ofNat 3600

/-- The number of seconds from which on there are too many for a duration. -/
def durationEnd : Binary64 := .ofNat (twoTo 64)

/-- A duration in nanoseconds, rounded to the nearest one. What is no number, is below zero or is
too great has none. -/
def durationOf? (seconds : Binary64) : Option Nat :=
  if Binary64.zero ≤ seconds ∧ seconds < durationEnd then seconds.nearestParts oneSecond else none

/-- Accepts an entered period in seconds. All that lies between the bounds has a duration. -/
def periodOfEntry (raw : String) : Except EntryError Nat :=
  (Entry.inRange leastPeriod greatestPeriod raw).map fun seconds => (durationOf? seconds).getD 0

/-- The whole milliseconds of a period as a wait of the robot. A longer period than a wait can
be becomes the longest wait. -/
def waitOf (period : Nat) : UInt32 := UInt32.ofNat (min (period / oneMillisecond) 0xffffffff)

/-- The bytes that one sample takes. -/
def sampleBytes : Nat := 8

/-- The most bytes that can be reserved at once: as many as a signed word of an address counts. -/
def mostBytes : Nat := twoTo 63 - 1

/-- A number of samples that room can be reserved for. -/
structure Count where
  number : Nat
  fits : number * sampleBytes ≤ mostBytes

namespace Count

instance : Coe Count Nat := ⟨number⟩

/-- Every word counts few enough samples. -/
def ofWord (word : UInt32) : Count where
  number := word.toNat
  fits := by
    have below := word.toNat_lt
    have most : mostBytes = 9223372036854775807 := rfl
    rw [sampleBytes, most]
    omega

/-- Reserves room for so many samples, if they are not too many. -/
def reserve? (number : Nat) : Option Count :=
  if fits : number * sampleBytes ≤ mostBytes then some ⟨number, fits⟩ else none

@[simp] theorem number_ofWord (word : UInt32) : (ofWord word).number = word.toNat := rfl

@[simp] theorem reserve?_number (count : Count) : reserve? count.number = some count :=
  dif_pos count.fits

theorem reserve?_eq_none_iff {number : Nat} :
    reserve? number = none ↔ mostBytes < number * sampleBytes := by
  rw [reserve?]
  split
  next fits => simp [Nat.not_lt.mpr fits]
  next many => simp [Nat.lt_of_not_le many]

end Count

variable {ρ τ : Type} [Robot ρ]

/-- Takes up to `remaining` further samples. The pace follows every sample and says whether to
go on. -/
def sampleFrom (pace : Act ρ τ Bool) :
    (remaining : Nat) → (taken : Array Binary64) → Act ρ τ (Array Binary64)
  | 0, taken => pure taken
  | remaining + 1, taken => do
    let celsius ← Act.call .temperature
    Act.notice .debug s!"Recorder: sample {taken.size + 1} = {celsius.fixed 2} C"
    Act.emit (.temperatureRecorded taken.size celsius)
    let taken := taken.push celsius
    if ← pace then sampleFrom pace remaining taken else pure taken

/-- Takes samples at a pace and reports it if they are fewer than requested. -/
def take (pace : Act ρ τ Bool) (period : Nat) (requested : Count) : Act ρ τ Series := do
  Act.notice .info s!"Recorder: {requested.number} samples every {period / oneMillisecond} ms"
  let samples ← sampleFrom pace requested #[]
  let series : Series := { samples, requested := requested }
  if !series.isComplete then Act.emit (.recordingCancelled samples.size requested)
  pure series

/-- Records at the pace of the ticker. A cancelled tick ends the recording. -/
def withTicker [Ticker τ] (period : Nat) (requested : Count) : Act ρ τ Series :=
  take (do return (← Act.tick period) = .elapsed) period requested

/-- Records at the pace of waits of the robot. -/
def withWaits (period : Nat) (requested : Count) : Act ρ τ Series :=
  take (do Act.call (.wait (waitOf period)); pure true) period requested

/-- A recording of any number of samples at the pace of the ticker. Without room for them there is
none: the program that asks for it stops before anything is done. -/
def withTicker? [Ticker τ] (period number : Nat) : Option (Act ρ τ Series) :=
  (Count.reserve? number).map (withTicker period)

/-- A recording of any number of samples at the pace of waits of the robot, if there is room for
them. -/
def withWaits? (period number : Nat) : Option (Act ρ τ Series) :=
  (Count.reserve? number).map (withWaits period)

end Recording

end Rover
