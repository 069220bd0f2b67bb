import Mathlib.Data.Rat.Floor
import Rover.Proofs.Performance.Sweep
import Rover.Proofs.Session.Quiescence

/-!
# The course of a performance

A performance is tried call by call as its script says. It ends with the first call that fails, or
else with the robot at rest.
-/

namespace Rover.Performance

/-! ## The length of a sweep -/

/-- Of the way from the start of a sweep to its top, a step that is not whole counts, too. -/
theorem sweepCount_eq_ceil (top : Nat) : sweepCount top = ⌈((top : ℚ) - 200) / 50⌉₊ := by
  apply eq_of_forall_lt_iff
  intro index
  rw [step_lt_top, Nat.lt_ceil, lt_div_iff₀ (by norm_num), lt_sub_iff_add_lt, sweepStart,
    sweepStep]
  rw [← Nat.cast_lt (α := ℚ)]
  push_cast
  rw [add_comm, mul_comm]

/-! ## Pieces -/

/-- The performances that there are. -/
inductive Piece where
  | lightAndSound (top : UInt32)
  | dance
  | mixingItUp
  deriving DecidableEq, Repr

namespace Piece

variable {ρ τ : Type} [Robot ρ]

/-- What is done in a performance. -/
def act : Piece → Act ρ τ Unit
  | .lightAndSound top => Performance.lightAndSound top
  | .dance => Performance.dance
  | .mixingItUp => Performance.mixingItUp

/-- The calls of a performance that nothing interrupts. -/
def script : Piece → List Call
  | .lightAndSound top => lightAndSoundScript top
  | .dance => danceScript
  | .mixingItUp => mixingItUpScript

theorem follows (piece : Piece) :
    (piece.act : Act ρ τ Unit).Follows (piece.script.map .silent) fun _ => True := by
  cases piece with
  | lightAndSound top => exact follows_lightAndSound top
  | dance => exact follows_dance
  | mixingItUp => exact follows_mixingItUp

theorem rests (piece : Piece) : Session.restCalls <:+ piece.script := by
  cases piece with
  | lightAndSound top => exact rests_lightAndSoundScript top
  | dance => exact rests_danceScript
  | mixingItUp => exact rests_mixingItUpScript

/-- What a performance comes to is settled by its script and the robot. -/
theorem result_eq (piece : Piece) (before : World ρ τ) :
    ∃ after, piece.act before =
        (Score.play (piece.script.map .silent) before.robot).result () after ∧
      (Score.play (piece.script.map .silent) before.robot).Carries before after :=
  (piece.follows.weaken fun _ _ => rfl).result_eq before

/-- Every performance has a fixed script of calls, which quiets the robot at last, and tries them
in order up to the first that fails, whichever that is. It succeeds just if none fails, and then it
leaves the robot behind any link at rest; otherwise it fails with this failure. Nothing else is
done. The script of light and sound has a tone for every started step between the start of the
sweep and its top, and a quarter turn of seventeen colours. -/
theorem tried_to_first_failure (piece : Piece) (before : World ρ τ) :
    (∃ attempts after, World.Leads (attempts.map .ofAttempt) before after ∧
      after.ticker = before.ticker ∧
      Tried piece.script attempts (attempts.findSome? Prod.snd) ∧
      (piece.act before = .ok () after ↔ ∀ attempt ∈ attempts, attempt.2 = none) ∧
      (∀ error, piece.act before = .error error after ↔
        attempts.findSome? Prod.snd = some error) ∧
      (piece.act before = .ok () after →
        ∀ core : ρ → SimulatedRobot, IsLink core → (core after.robot).isQuiescent = true)) ∧
    [.setMotors 0 0, .noteOff, .setLed ⟨0, 0, 0⟩] <:+ piece.script ∧
    ∀ top,
      let tones := sweepTones (sweepCount top.toNat) sweepStart
      script (.lightAndSound top) =
        tones.flatMap (fun hertz => [.noteOn hertz, .wait 20]) ++ .noteOff ::
          (wheel.flatMap (fun colour => [.setLed colour, .wait 60]) ++
            [.setMotors 0 0, .noteOff, .setLed ⟨0, 0, 0⟩]) ∧
      tones.length = ⌈((top.toNat : ℚ) - 200) / 50⌉₊ ∧ (top.toNat ≤ 200 → tones = []) ∧
      wheel.length = 17 := by
  refine ⟨?_, piece.rests, ?_⟩
  · let played := Score.play (piece.script.map .silent) before.robot
    obtain ⟨after, ran, carries⟩ := piece.result_eq before
    have tried := Score.tried_play_silent piece.script before.robot
    have leads := carries.leads
    rw [Score.records_play_silent] at leads
    refine ⟨played.records.attempts, after, leads, carries.ticker, ?_, ?_, ?_, ?_⟩
    · rwa [tried.findSome?_eq]
    · rw [← tried.failure_eq_none_iff, ran, Played.result_eq_ok_iff]
    · intro error
      rw [tried.findSome?_eq, ran, Played.result_eq_error_iff]
    · intro completed core link
      rw [ran, Played.result_eq_ok_iff] at completed
      rw [carries.robot]
      exact SimulatedRobot.isQuiescent_of_completed link piece.rests completed
  · intro top tones
    have length : tones.length = sweepCount top.toNat := length_sweepTones _ _
    refine ⟨rfl, ?_, ?_, rfl⟩
    · rw [length, sweepCount_eq_ceil]
    · intro within
      apply List.eq_nil_of_length_eq_zero
      rw [length, sweepCount, sweepStart, Nat.sub_eq_zero_of_le within]
      rfl

end Piece

end Rover.Performance
