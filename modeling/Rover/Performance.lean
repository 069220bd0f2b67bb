import Rover.Binary64.Arithmetic
import Rover.Entry
import Rover.World

/-!
# Performances

Fixed shows that need no program. Each one leaves the robot at rest if no call fails.
-/

namespace Rover.Performance

/-- The top of the tone sweep if the operator gives none. -/
def standardTop : UInt32 := 600

/-- The start of the tone sweep. -/
def sweepStart : Nat := 200

/-- The distance of two steps of a sweep. -/
def sweepStep : Nat := 50

/-- The top of the sweep from an entry: a whole number above the start, or else the standard
one. -/
def topOfEntry (raw : String) : UInt32 :=
  match (EntryNumber.read (Text.trim raw.toList) : Option UInt32) with
  | some hertz => if sweepStart < hertz.toNat then hertz else standardTop
  | none => standardTop

/-- The circle's half turn. -/
def pi : Binary64 := .ofRatio false 0x1921fb54442d18 0x8000000000000

/-- The tone of one step of the sweep: the step times pi, rounded. -/
def sweepTone (step : Nat) : UInt32 := (pi.mul (.ofNat step)).round.toUInt32

/-- How many steps a sweep has from its start up to below its top. -/
def sweepCount (top : Nat) : Nat := (top - sweepStart + sweepStep - 1) / sweepStep

/-- How many steps a quarter turn of the colour wheel is divided into. -/
def colourSteps : Nat := 16

/-- The cosine of the angle at each step of the quarter turn, 255 times and rounded. It is
tabulated: no function of angles is computed here. -/
def cosines : List UInt8 :=
  [255, 254, 250, 244, 236, 225, 212, 197, 180, 162, 142, 120, 98, 74, 50, 25, 0]

/-- The colour at a step of the quarter turn. Red fades as the cosine does, green rises as the sine,
which is the cosine of the angle that is left, and blue rises evenly. -/
def colourAt (step : Nat) : Colour where
  red := cosines.getD step 0
  green := cosines.getD (colourSteps - step) 0
  blue := UInt8.ofNat (255 * step / colourSteps)

/-- The colours of the quarter turn, with those at both of its ends. -/
def wheel : List Colour := (List.range (colourSteps + 1)).map colourAt

variable {ρ τ : Type}

/-- Does the same for every element of a list, in order. -/
def forEach {α : Type} (action : α → Act ρ τ Unit) : List α → Act ρ τ Unit
  | [] => pure ()
  | element :: rest => do
    action element
    forEach action rest

variable [Robot ρ]

/-- Holds a tone of a sweep. -/
def holdTone (hertz : UInt32) : Act ρ τ Unit := do
  Act.call (.noteOn hertz)
  Act.call (.wait 20)

/-- Sweeps through the given number of tones, the first one being that of `step`. -/
def sweepFrom : (count step : Nat) → Act ρ τ Unit
  | 0, _ => pure ()
  | count + 1, step => do
    holdTone (sweepTone step)
    sweepFrom count (step + sweepStep)

/-- Shows a colour of the wheel. -/
def holdColour (colour : Colour) : Act ρ τ Unit := do
  Act.call (.setLed colour)
  Act.call (.wait 60)

/-- A rising sweep of tones up to a top, then a quarter turn of the colour wheel. -/
def lightAndSound (top : UInt32) : Act ρ τ Unit := do
  Act.notice .info s!"Routine: light and sound up to {top.toNat} Hz"
  sweepFrom (sweepCount top.toNat) sweepStart
  Act.call .noteOff
  forEach holdColour wheel
  Act.quiesce

/-- One move of the dance: the power of both wheels and how long it is held. -/
structure Move where
  left : Int16
  right : Int16
  holdMillis : UInt32
  deriving DecidableEq, Repr

/-- The moves of the dance, one wheel at a time. -/
def danceMoves : List Move :=
  [⟨0, 100, 1000⟩, ⟨0, -100, 1000⟩, ⟨100, 0, 1000⟩, ⟨-100, 0, 100⟩, ⟨200, 0, 500⟩,
   ⟨0, -200, 1000⟩]

/-- Makes one move. -/
def makeMove (move : Move) : Act ρ τ Unit := do
  Act.call (.setMotors move.left move.right)
  Act.call (.wait move.holdMillis)

/-- A dance of single wheels. -/
def dance : Act ρ τ Unit := do
  Act.notice .info "Routine: dance"
  forEach makeMove danceMoves
  Act.quiesce

/-- The tones that rise after the swerves, from 100 up to below 500. -/
def risingTones : List UInt32 := (List.range' 100 8 sweepStep).map UInt32.ofNat

/-- The tones that fall at the end, from 600 down to above 100. -/
def fallingTones : List UInt32 := ((List.range' 150 10 sweepStep).map UInt32.ofNat).reverse

/-- Two coloured swerves, then a rising and a falling row of tones. -/
def mixingItUp : Act ρ τ Unit := do
  Act.notice .info "Routine: mixing it up"
  Act.call (.setLed ⟨255, 0, 0⟩)
  Act.call (.setMotors 200 250)
  Act.call (.wait 1000)
  Act.call (.setLed ⟨0, 255, 0⟩)
  Act.call (.setMotors 250 200)
  Act.call (.wait 1000)
  Act.call (.setMotors 0 0)
  Act.call (.setLed .dark)
  forEach holdTone risingTones
  forEach holdTone fallingTones
  Act.quiesce

end Rover.Performance
