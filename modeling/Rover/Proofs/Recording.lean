import Rover.Proofs.Exchange
import Rover.Recording

/-!
# Calls of recordings

Nothing but a fault cuts a recording short that is paced by waits of the robot, so all its calls
and reports are fixed beforehand: it follows a score. One that is paced by the ticker may take
fewer samples, but it tries nothing else.
-/

namespace Rover.Recording

/-- A temperature is taken and reported, and one period passes. -/
def sampleCues (period index : Nat) : Score :=
  [.call .temperature fun celsius => [.temperatureRecorded index celsius],
   .silent (.wait (waitOf period))]

/-- The score of a recording. -/
def score (period requested : Nat) : Score :=
  (List.range requested).flatMap (sampleCues period)

/-- A second fits into a wait. -/
theorem waitOf_oneSecond : waitOf oneSecond = 1000 := by decide

theorem calls_flatMap_sampleCues (period : Nat) (indices : List Nat) :
    Score.calls (indices.flatMap (sampleCues period)) =
      (List.replicate indices.length [Call.temperature, .wait (waitOf period)]).flatten := by
  induction indices with
  | nil => rfl
  | cons index rest ih =>
      simp only [List.flatMap_cons, Score.calls_append, ih, List.length_cons,
        List.replicate_succ, List.flatten_cons]
      rfl

theorem calls_score (period requested : Nat) :
    Score.calls (score period requested) =
      (List.replicate requested [Call.temperature, .wait (waitOf period)]).flatten := by
  rw [score, calls_flatMap_sampleCues, List.length_range]

variable {ρ τ : Type} [Robot ρ]

/-- The report of a sample. -/
def reportSample (index : Nat) (celsius : Binary64) : Act ρ τ Unit := do
  Act.notice .debug s!"Recorder: sample {index + 1} = {celsius.fixed 2} C"
  Act.emit (.temperatureRecorded index celsius)

theorem sampleFrom_succ (pace : Act ρ τ Bool) (remaining : Nat) (taken : Array Binary64) :
    sampleFrom pace (remaining + 1) taken =
      Act.call .temperature >>= fun celsius => reportSample taken.size celsius >>= fun _ =>
        pace >>= fun goesOn =>
          if goesOn then sampleFrom pace remaining (taken.push celsius)
          else pure (taken.push celsius) := by
  simp only [sampleFrom, reportSample, bind_assoc]

theorem follows_wait_pace (period : Nat) :
    Act.Follows (do Act.call (.wait (waitOf period)); pure true : Act ρ τ Bool)
      [.silent (.wait (waitOf period))] (· = true) :=
  Act.follows_bind_quiet (Act.follows_call _) fun _ _ => Act.follows_pure rfl

/-- Further samples are numbered on from those already taken, and none is left out. -/
theorem follows_sampleFrom (period remaining : Nat) (taken : Array Binary64) :
    Act.Follows
      (sampleFrom (do Act.call (.wait (waitOf period)); pure true) remaining taken :
        Act ρ τ (Array Binary64))
      ((List.range' taken.size remaining).flatMap (sampleCues period))
      fun samples => samples.size = taken.size + remaining := by
  induction remaining generalizing taken with
  | zero => exact Act.follows_pure rfl
  | succ remaining ih =>
      rw [List.range'_succ, List.flatMap_cons]
      apply Act.follows_call_bind
      intro celsius
      simp only [List.map_cons, List.map_nil, List.cons_append, List.nil_append]
      apply Act.follows_notice_bind
      apply Act.follows_emit_bind
      refine Act.follows_bind (follows_wait_pace period) fun goesOn given => ?_
      subst given
      have further := ih (taken.push celsius)
      rw [Array.size_push] at further
      exact further.weaken fun samples size => by omega

/-- A recording paced by waits follows its score, and if it comes to its end it is complete. -/
theorem follows_withWaits (period : Nat) (requested : Count) :
    Act.Follows (withWaits period requested : Act ρ τ Series) (score period requested)
      fun series => series.isComplete = true := by
  rw [score, List.range_eq_range']
  apply Act.follows_notice_bind
  refine Act.follows_bind_quiet (follows_sampleFrom period requested #[]) fun samples size => ?_
  have complete : Series.isComplete { samples, requested := requested } = true := by
    simpa [Series.isComplete] using size
  simp only [complete, Bool.not_true]
  exact Act.follows_pure complete

theorem tries_sampleFrom {allowed : Call → Prop} (permitted : allowed .temperature)
    {pace : Act ρ τ Bool} (paced : pace.Tries allowed) (remaining : Nat)
    (taken : Array Binary64) : (sampleFrom pace remaining taken).Tries allowed := by
  induction remaining generalizing taken with
  | zero => exact Act.tries_pure _
  | succ remaining ih =>
      apply Act.tries_bind (Act.tries_call permitted)
      intro celsius
      apply Act.tries_bind (Act.tries_notice _ _)
      intro _
      apply Act.tries_bind (Act.tries_emit _)
      intro _
      apply Act.tries_bind paced
      intro goesOn
      cases goesOn with
      | true => exact ih _
      | false => exact Act.tries_pure _

/-- At the pace of the ticker only the temperature is read. -/
theorem tries_withTicker [Ticker τ] {allowed : Call → Prop} (permitted : allowed .temperature)
    (period : Nat) (requested : Count) :
    (withTicker period requested : Act ρ τ Series).Tries allowed := by
  have paced : (do return (← Act.tick period) = .elapsed : Act ρ τ Bool).Tries allowed :=
    Act.tries_bind (Act.tries_tick period) fun _ => Act.tries_pure _
  apply Act.tries_bind (Act.tries_notice _ _)
  intro _
  apply Act.tries_bind (tries_sampleFrom permitted paced requested #[])
  intro samples
  dsimp only
  split
  · exact Act.tries_bind (Act.tries_emit _) fun _ => Act.tries_pure _
  · exact Act.tries_pure _

end Rover.Recording
