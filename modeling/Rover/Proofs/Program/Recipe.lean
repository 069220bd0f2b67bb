import Rover.Program.Run
import Rover.Proofs.Recording

/-!
# Recipes of commands

The table of recipes: every command stands for a fixed row of calls, which the parameters of the
run and the configured holds fill in. A run of a program tries the recipes of its commands one
after the other, whatever the robot answers, and stops just after the first call that fails.
-/

namespace Rover.Program

/-- So many quarters of a motor speed, rounded toward zero. -/
def quarters (count : Int) (speed : Int16) : Int16 := Int16.ofInt ((speed.toInt * count).tdiv 4)

/-- The calls of one command. -/
def recipe (holds : Holds) (parameters : Parameters) : Command → List Call
  | .placeholder => []
  | .moveForward => [.setMotors parameters.motorSpeed parameters.motorSpeed]
  | .moveBackward => [.setMotors (-parameters.motorSpeed) (-parameters.motorSpeed)]
  | .stopMotors => [.setMotors 0 0]
  | .wait => [.wait parameters.waitMillis]
  | .turnRight => [.setMotors (quarters 1 parameters.motorSpeed) parameters.motorSpeed]
  | .turnLeft => [.setMotors parameters.motorSpeed (quarters 1 parameters.motorSpeed)]
  | .ledOn =>
    (List.replicate parameters.wholeWaitSeconds.toNat
      [.setLed ⟨parameters.ledBrightness, 0, 0⟩, .wait holds.ledStepMillis,
       .setLed ⟨0, parameters.ledBrightness, 0⟩, .wait holds.ledStepMillis,
       .setLed ⟨0, 0, parameters.ledBrightness⟩, .wait holds.ledStepMillis]).flatten
  | .ledOff => [.setLed ⟨0, 0, 0⟩]
  | .getTemperature =>
    (List.replicate parameters.wholeWaitSeconds.toNat [.temperature, .wait 1000]).flatten
  | .songAndDance =>
    [.setLed ⟨parameters.ledBrightness, 0, parameters.ledBrightness⟩,
     .setMotors (quarters 3 parameters.motorSpeed) 0,
     .noteOn 523, .wait holds.danceStepMillis,
     .noteOn 659, .wait holds.danceStepMillis,
     .setLed ⟨0, parameters.ledBrightness, parameters.ledBrightness⟩,
     .setMotors (-quarters 3 parameters.motorSpeed) 0,
     .noteOn 784, .wait holds.danceStepMillis,
     .setMotors 0 0,
     .noteOn 1047, .wait holds.danceStepMillis,
     .noteOff]
  | .done => []

/-- The score of one command: its recipe, where every temperature taken is reported. -/
def cues (holds : Holds) (parameters : Parameters) : Command → Score
  | .getTemperature => Recording.score oneSecond parameters.wholeWaitSeconds.toNat
  | command => (recipe holds parameters command).map .silent

/-- The score of commands, the first one having the given index. Every command is reported once
its effect is done. -/
def scoreFrom (holds : Holds) (parameters : Parameters) : Program → (index : Nat) → Score
  | [], _ => []
  | command :: rest, index =>
    cues holds parameters command ++
      .report (report index command) :: scoreFrom holds parameters rest (index + 1)

/-- The score of a program. -/
def score (holds : Holds) (parameters : Parameters) (program : Program) : Score :=
  scoreFrom holds parameters program 0

/-! ## The calls of a score -/

theorem calls_cues (holds : Holds) (parameters : Parameters) (command : Command) :
    Score.calls (cues holds parameters command) = recipe holds parameters command := by
  cases command with
  | getTemperature => rw [cues, Recording.calls_score, Recording.waitOf_oneSecond, recipe]
  | _ => exact Score.calls_silent _

theorem calls_scoreFrom (holds : Holds) (parameters : Parameters) (program : Program)
    (index : Nat) :
    Score.calls (scoreFrom holds parameters program index) =
      program.flatMap (recipe holds parameters) := by
  induction program generalizing index with
  | nil => rfl
  | cons command rest ih => simp [scoreFrom, calls_cues, ih]

/-! ## Speeds -/

theorem quarterSpeed_eq (parameters : Parameters) :
    parameters.quarterSpeed = quarters 1 parameters.motorSpeed := by
  have divided := Int16.toInt_div_of_ne_right parameters.motorSpeed 4 (by decide)
  have four : (4 : Int16).toInt = 4 := rfl
  rw [four] at divided
  rw [quarters, Int.mul_one, ← divided, Int16.ofInt_toInt]
  rfl

theorem spinSpeed_eq (parameters : Parameters) :
    parameters.spinSpeed = quarters 3 parameters.motorSpeed := rfl

/-! ## Commands follow their scores -/

variable {ρ τ : Type} [Robot ρ]

theorem follows_times {action : Act ρ τ Unit} {score : Score}
    (follows : action.Follows score fun _ => True) (count : Nat) :
    (times action count).Follows (List.replicate count score).flatten fun _ => True := by
  induction count with
  | zero => exact Act.follows_pure trivial
  | succ count ih =>
      rw [List.replicate_succ, List.flatten_cons]
      exact Act.follows_bind follows fun _ _ => ih

theorem follows_ledCycle (holds : Holds) (brightness : UInt8) :
    (ledCycle holds brightness : Act ρ τ Unit).Follows
      ([.setLed ⟨brightness, 0, 0⟩, .wait holds.ledStepMillis,
        .setLed ⟨0, brightness, 0⟩, .wait holds.ledStepMillis,
        .setLed ⟨0, 0, brightness⟩, .wait holds.ledStepMillis].map Cue.silent)
      fun _ => True := by
  repeat refine Act.follows_silent_bind fun _ => ?_
  exact Act.follows_call _

theorem follows_ledCycles (holds : Holds) (parameters : Parameters) :
    (times (ledCycle holds parameters.ledBrightness) parameters.wholeWaitSeconds.toNat :
      Act ρ τ Unit).Follows ((recipe holds parameters .ledOn).map .silent) fun _ => True := by
  rw [recipe, List.map_flatten, List.map_replicate]
  exact follows_times (follows_ledCycle holds parameters.ledBrightness) _

theorem follows_songAndDance (holds : Holds) (parameters : Parameters) :
    (songAndDance holds parameters : Act ρ τ Unit).Follows
      ((recipe holds parameters .songAndDance).map .silent) fun _ => True := by
  simp only [songAndDance, spinSpeed_eq]
  repeat refine Act.follows_silent_bind fun _ => ?_
  exact Act.follows_call _

/-- The average is only told to the log. -/
theorem follows_recordTemperature (count : Recording.Count) :
    (recordTemperature count : Act ρ τ Unit).Follows (Recording.score oneSecond count)
      fun _ => True := by
  refine Act.follows_bind_quiet (Recording.follows_withWaits oneSecond count) fun series _ => ?_
  cases series.average? with
  | none => exact Act.follows_pure trivial
  | some average => exact Act.follows_notice _ _

theorem follows_perform (holds : Holds) (parameters : Parameters) (command : Command) :
    (perform holds parameters command : Act ρ τ Unit).Follows (cues holds parameters command)
      fun _ => True := by
  apply Act.follows_notice_bind
  cases command with
  | placeholder => exact Act.follows_notice _ _
  | songAndDance => exact follows_songAndDance holds parameters
  | getTemperature => exact follows_recordTemperature _
  | ledOn => exact follows_ledCycles holds parameters
  | turnRight =>
      rw [quarterSpeed_eq]
      exact Act.follows_call _
  | turnLeft =>
      rw [quarterSpeed_eq]
      exact Act.follows_call _
  | done => exact Act.follows_pure trivial
  | moveForward | moveBackward | stopMotors | wait | ledOff => exact Act.follows_call _

/-- A run that completes gives the commands in their order as its trace. -/
theorem follows_runFrom (holds : Holds) (parameters : Parameters) (program : Program)
    (index : Nat) :
    (runFrom holds parameters program index : Act ρ τ (List Command)).Follows
      (scoreFrom holds parameters program index) (· = program) := by
  induction program generalizing index with
  | nil => exact Act.follows_pure rfl
  | cons command rest ih =>
      refine Act.follows_bind (follows_perform holds parameters command) fun _ _ => ?_
      apply Act.follows_emit_bind
      refine Act.follows_bind_quiet (ih (index + 1)) fun trace given => ?_
      subst given
      exact Act.follows_pure rfl

theorem follows_run (holds : Holds) (parameters : Parameters) (program : Program) :
    (run holds parameters program : Act ρ τ (List Command)).Follows
      (score holds parameters program) (· = program) := by
  cases program with
  | nil => exact Act.follows_pure rfl
  | cons command rest =>
      apply Act.follows_notice_bind
      exact follows_runFrom holds parameters (command :: rest) 0

/-- Whatever the robot answers, a run tries the recipes of its commands in program order, cut
just after the first call that fails. If none fails the trace is the program, otherwise the
first failure is the result. Reports and calls stand in the journal as in the score: every
temperature is reported when it was taken, and every command once its effect is done. -/
theorem run_refines_recipes (holds : Holds) (parameters : Parameters) (program : Program)
    (before : World ρ τ) :
    let played := (score holds parameters program).play before.robot
    ∃ after, run holds parameters program before = played.result program after ∧
      played.Carries before after ∧
      Tried (program.flatMap (recipe holds parameters)) played.records.attempts
        played.failure := by
  intro played
  rcases (follows_run holds parameters program).result_eq before with ⟨after, ran, carries⟩
  refine ⟨after, ran, carries, ?_⟩
  have tried := Score.tried_play (score holds parameters program) before.robot
  rwa [score, calls_scoreFrom] at tried

end Rover.Program
