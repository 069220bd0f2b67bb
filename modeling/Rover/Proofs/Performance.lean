import Rover.Performance
import Rover.Proofs.Session.Rest

/-!
# Scripts of performances

A performance reads no sensor and decides nothing, so its loops unroll to a script that depends
on nothing but the top of the sweep, and every script ends in a reset. The two scripts that depend
on nothing at all are written out call by call.
-/

namespace Rover.Performance

def toneCalls (hertz : UInt32) : List Call := [.noteOn hertz, .wait 20]

/-- The tones of a sweep in order. -/
def sweepTones (count step : Nat) : List UInt32 :=
  (List.range' step count sweepStep).map sweepTone

def colourCalls (colour : Colour) : List Call := [.setLed colour, .wait 60]

def moveCalls (move : Move) : List Call :=
  [.setMotors move.left move.right, .wait move.holdMillis]

def lightAndSoundScript (top : UInt32) : List Call :=
  (sweepTones (sweepCount top.toNat) sweepStart).flatMap toneCalls ++
    .noteOff :: (wheel.flatMap colourCalls ++ Session.restCalls)

def danceScript : List Call :=
  [.setMotors 0 100, .wait 1000, .setMotors 0 (-100), .wait 1000, .setMotors 100 0, .wait 1000,
   .setMotors (-100) 0, .wait 100, .setMotors 200 0, .wait 500, .setMotors 0 (-200), .wait 1000,
   .setMotors 0 0, .noteOff, .setLed ⟨0, 0, 0⟩]

def mixingItUpScript : List Call :=
  [.setLed ⟨255, 0, 0⟩, .setMotors 200 250, .wait 1000,
   .setLed ⟨0, 255, 0⟩, .setMotors 250 200, .wait 1000, .setMotors 0 0, .setLed ⟨0, 0, 0⟩,
   .noteOn 100, .wait 20, .noteOn 150, .wait 20, .noteOn 200, .wait 20, .noteOn 250, .wait 20,
   .noteOn 300, .wait 20, .noteOn 350, .wait 20, .noteOn 400, .wait 20, .noteOn 450, .wait 20,
   .noteOn 600, .wait 20, .noteOn 550, .wait 20, .noteOn 500, .wait 20, .noteOn 450, .wait 20,
   .noteOn 400, .wait 20, .noteOn 350, .wait 20, .noteOn 300, .wait 20, .noteOn 250, .wait 20,
   .noteOn 200, .wait 20, .noteOn 150, .wait 20,
   .setMotors 0 0, .noteOff, .setLed ⟨0, 0, 0⟩]

/-- The dance is its moves one after another and the reset. -/
theorem danceScript_eq : danceScript = danceMoves.flatMap moveCalls ++ Session.restCalls := rfl

/-- What comes after the swerves are two rows of tones and the reset. -/
theorem mixingItUpScript_eq :
    mixingItUpScript =
      .setLed ⟨255, 0, 0⟩ :: .setMotors 200 250 :: .wait 1000 ::
      .setLed ⟨0, 255, 0⟩ :: .setMotors 250 200 :: .wait 1000 ::
      .setMotors 0 0 :: .setLed ⟨0, 0, 0⟩ ::
      (risingTones.flatMap toneCalls ++ (fallingTones.flatMap toneCalls ++ Session.restCalls)) :=
  rfl

variable {ρ τ : Type} [Robot ρ]

/-- A loop follows a script if every round of it does. -/
theorem follows_forEach {α : Type} {action : α → Act ρ τ Unit} {script : α → List Call}
    (follows : ∀ element, (action element).Follows ((script element).map .silent) fun _ => True)
    (elements : List α) :
    (forEach action elements).Follows ((elements.flatMap script).map .silent) fun _ => True := by
  induction elements with
  | nil => exact Act.follows_pure trivial
  | cons element rest ih =>
      rw [List.flatMap_cons, List.map_append]
      exact Act.follows_bind (follows element) fun _ _ => ih

theorem follows_holdTone (hertz : UInt32) :
    (holdTone hertz : Act ρ τ Unit).Follows ((toneCalls hertz).map .silent) fun _ => True :=
  Act.follows_silent_bind fun _ => Act.follows_call _

theorem follows_holdColour (colour : Colour) :
    (holdColour colour : Act ρ τ Unit).Follows ((colourCalls colour).map .silent) fun _ => True :=
  Act.follows_silent_bind fun _ => Act.follows_call _

theorem follows_makeMove (move : Move) :
    (makeMove move : Act ρ τ Unit).Follows ((moveCalls move).map .silent) fun _ => True :=
  Act.follows_silent_bind fun _ => Act.follows_call _

theorem follows_sweepFrom (count step : Nat) :
    (sweepFrom count step : Act ρ τ Unit).Follows
      (((sweepTones count step).flatMap toneCalls).map .silent) fun _ => True := by
  induction count generalizing step with
  | zero => exact Act.follows_pure trivial
  | succ count ih =>
      rw [sweepTones, List.range'_succ, List.map_cons, List.flatMap_cons, List.map_append]
      exact Act.follows_bind (follows_holdTone _) fun _ _ => ih (step + sweepStep)

theorem follows_lightAndSound (top : UInt32) :
    (lightAndSound top : Act ρ τ Unit).Follows ((lightAndSoundScript top).map .silent)
      fun _ => True := by
  rw [lightAndSoundScript, List.map_append, List.map_cons, List.map_append]
  apply Act.follows_notice_bind
  refine Act.follows_bind (follows_sweepFrom _ _) fun _ _ => ?_
  apply Act.follows_silent_bind
  intro _
  exact Act.follows_bind (follows_forEach follows_holdColour wheel) fun _ _ =>
    Session.follows_quiesce

theorem follows_dance :
    (dance : Act ρ τ Unit).Follows (danceScript.map .silent) fun _ => True := by
  rw [danceScript_eq, List.map_append]
  apply Act.follows_notice_bind
  exact Act.follows_bind (follows_forEach follows_makeMove danceMoves) fun _ _ =>
    Session.follows_quiesce

theorem follows_mixingItUp :
    (mixingItUp : Act ρ τ Unit).Follows (mixingItUpScript.map .silent) fun _ => True := by
  simp only [mixingItUpScript_eq, List.map_cons, List.map_append]
  apply Act.follows_notice_bind
  repeat refine Act.follows_silent_bind fun _ => ?_
  refine Act.follows_bind (follows_forEach follows_holdTone risingTones) fun _ _ => ?_
  exact Act.follows_bind (follows_forEach follows_holdTone fallingTones) fun _ _ =>
    Session.follows_quiesce

end Rover.Performance
