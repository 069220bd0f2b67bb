import Rover.Proofs.Recording
import Rover.Proofs.Rounds

/-!
# The course of a recording

A recording at the pace of the ticker goes through rounds of a sample and a tick. The first round
whose sample fails or whose tick is cancelled ends it; without one it is complete.
-/

namespace Rover.Recording

variable {ρ τ : Type} [Robot ρ] [Ticker τ]

/-- The round of the given index: a temperature is taken and reported, and one period passes. -/
def round (period index : Nat) : Act ρ τ (Binary64 × Tick) := do
  let celsius ← Act.call .temperature
  reportSample index celsius
  let tick ← Act.tick period
  pure (celsius, tick)

/-- The samples of the first rounds. -/
def samples (period : Nat) (start : World ρ τ) (count : Nat) : List Binary64 :=
  (Act.gains (round period) start count).map Prod.fst

/-- Whether a round ends the recording: its sample failed, or its tick was cancelled. -/
def ends : Except DeviceError (Binary64 × Tick) → Bool
  | .error _ => true
  | .ok (_, tick) => tick = .cancelled

/-- The pace of the ticker. -/
def tickerPace (period : Nat) : Act ρ τ Bool := do return (← Act.tick period) = .elapsed

theorem sampleFrom_tickerPace_succ (period remaining : Nat) (taken : Array Binary64) :
    sampleFrom (tickerPace period) (remaining + 1) taken =
      (round period taken.size : Act ρ τ (Binary64 × Tick)) >>= fun (celsius, tick) =>
        if tick = .elapsed then sampleFrom (tickerPace period) remaining (taken.push celsius)
        else pure (taken.push celsius) := by
  rw [sampleFrom_succ]
  simp only [round, tickerPace, bind_assoc, pure_bind, decide_eq_true_eq]

theorem samples_succ_of_ok {period : Nat} {start : World ρ τ} {passed : Nat} {celsius : Binary64}
    {tick : Tick} (brings : Act.course (round period) start passed = .ok (celsius, tick)) :
    samples period start (passed + 1) = samples period start passed ++ [celsius] := by
  simp only [samples, Act.gains_succ_of_ok brings, List.map_append, List.map_singleton]

/-- What the round that ends a recording makes of it. -/
def resultAt (period : Nat) (start : World ρ τ) (last : Nat) :
    EStateM.Result DeviceError (World ρ τ) (Array Binary64) :=
  let after := Act.worldAfter (round period) start (last + 1)
  match Act.course (round period) start last with
  | .error error => .error error after
  | .ok _ => .ok (samples period start (last + 1)).toArray after

/-- The first round that ends a recording settles its result. -/
theorem sampleFrom_eq (period : Nat) (start : World ρ τ) (remaining : Nat) {passed : Nat}
    (whole : (samples period start passed).length = passed) :
    sampleFrom (tickerPace period) remaining (samples period start passed).toArray
        (Act.worldAfter (round period) start passed) =
      match (List.range' passed remaining).find? fun index =>
        ends (Act.course (round period) start index) with
      | none =>
        .ok (samples period start (passed + remaining)).toArray
          (Act.worldAfter (round period) start (passed + remaining))
      | some last => resultAt period start last := by
  induction remaining generalizing passed with
  | zero => rfl
  | succ remaining ih =>
      have size : (samples period start passed).toArray.size = passed := by
        rw [List.size_toArray, whole]
      rw [sampleFrom_tickerPace_succ, size, List.range'_succ, List.find?_cons]
      cases brings : Act.course (round period) start passed with
      | error error =>
          rw [Act.bind_of_error (Act.round_of_course_error brings)]
          simp only [ends, resultAt, brings]
      | ok both =>
          obtain ⟨celsius, tick⟩ := both
          have grown : (samples period start passed).toArray.push celsius =
              (samples period start (passed + 1)).toArray := by
            rw [samples_succ_of_ok brings, List.push_toArray]
          rw [Act.bind_of_ok (Act.round_of_course_ok brings)]
          cases tick with
          | cancelled =>
              simp only [ends, resultAt, brings, grown, decide_true, reduceCtorEq, if_false]
              rfl
          | elapsed =>
              have whole' : (samples period start (passed + 1)).length = passed + 1 := by
                rw [samples_succ_of_ok brings, List.length_append, whole]
                rfl
              have further := ih whole'
              rw [Nat.add_right_comm passed 1 remaining] at further
              simp only [ends, grown, reduceCtorEq, decide_false, if_true]
              exact further

theorem sampleFrom_zero_eq (period requested : Nat) (start : World ρ τ) :
    sampleFrom (tickerPace period) requested #[] start =
      match (List.range requested).find? fun index =>
        ends (Act.course (round period) start index) with
      | none =>
        .ok (samples period start requested).toArray (Act.worldAfter (round period) start requested)
      | some last => resultAt period start last := by
  have whole : (samples period start 0).length = 0 := rfl
  have settled := sampleFrom_eq period start requested whole
  rwa [← List.range_eq_range', Nat.zero_add] at settled

/-! ## The ticks of a recording -/

section Ticks

variable {ρ : Type} [Robot ρ]

theorem asks_round (period index : Nat) :
    (round period index : Act ρ ManualTicker (Binary64 × Tick)).Asks period :=
  Act.asks_paced (Act.follows_call .temperature)
    (fun _ => Act.follows_notice_bind (Act.follows_emit _)) period

/-- The line that a recording begins with. -/
def announcement (period requested : Nat) : Notice where
  level := .info
  text := s!"Recorder: {requested} samples every {period / oneMillisecond} ms"

/-- The world once a recording is announced. -/
def started (period requested : Nat) (before : World ρ ManualTicker) : World ρ ManualTicker :=
  before.record (.notice (announcement period requested))

/-- The answers of the ticker to the first samples of a recording. -/
def ticks (period requested : Nat) (before : World ρ ManualTicker) (count : Nat) : List Tick :=
  Act.ticks (round period) (started period requested before) count

/-- How many of the samples no period elapsed for: one if the last tick was refused, and else
none. -/
def uncounted (period requested : Nat) (before : World ρ ManualTicker) (series : Series) : Nat :=
  if (ticks period requested before series.samples.size).getLast? = some .cancelled then 1 else 0

theorem fullUntil {period : Nat} {start : World ρ ManualTicker} {count : Nat}
    (goesOn : ∀ index < count, ends (Act.course (round period) start index) = false) :
    Act.FullUntil (round period) start count := by
  intro index below
  have left := goesOn index below
  cases brings : Act.course (round period) start index with
  | error error =>
      rw [brings] at left
      cases left
  | ok both =>
      obtain ⟨celsius, tick⟩ := both
      rw [brings] at left
      cases tick with
      | elapsed => exact ⟨celsius, rfl⟩
      | cancelled => cases left

/-- The samples of a recording balance with the ticker. -/
theorem balances_sampleFrom (period requested : Nat) (start : World ρ ManualTicker) :
    Act.Balances period Array.size
      (fun taken => if (Act.ticks (round period) start taken.size).getLast? = some .cancelled
        then 1 else 0)
      (sampleFrom (tickerPace period) requested #[]) start := by
  have settled := sampleFrom_zero_eq period requested start
  cases first : (List.range requested).find? fun index =>
      ends (Act.course (round period) start index) with
  | none =>
      simp only [first] at settled
      have full := fullUntil fun index below => by
        simpa using List.find?_range_eq_none.mp first index below
      refine .of_ok settled (full.advances (asks_round period)) ?_
      rw [List.size_toArray, samples, List.length_map, full.length_gains,
        if_neg full.getLast?_ne_cancelled]
      rfl
  | some last =>
      simp only [first] at settled
      obtain ⟨decides, -, goesOn⟩ := List.find?_range_eq_some.mp first
      have full := fullUntil fun index below => by simpa using goesOn index below
      cases brings : Act.course (round period) start last with
      | error error =>
          simp only [resultAt, brings] at settled
          exact .of_error settled (full.advances_of_error (asks_round period) brings)
      | ok both =>
          obtain ⟨celsius, tick⟩ := both
          simp only [resultAt, brings] at settled
          have refused : tick = .cancelled := by simpa [ends, brings] using decides
          subst refused
          refine .of_ok settled (full.advances_of_ok (asks_round period) brings) ?_
          rw [List.size_toArray, samples, List.length_map, full.length_gains_succ brings,
            if_pos (Act.getLast?_ticks_of_ok brings)]
          rfl

theorem balances_withTicker (period : Nat) (requested : Count) (before : World ρ ManualTicker) :
    Act.Balances period (fun series => series.samples.size) (uncounted period requested before)
      (withTicker period requested) before := by
  have closes : ∀ taken : Array Binary64, (do
      let series : Series := { samples := taken, requested := requested }
      if !series.isComplete then Act.emit (.recordingCancelled taken.size requested)
      pure series : Act ρ ManualTicker Series).Follows
      (if Series.isComplete { samples := taken, requested := requested } then []
        else [.report (.recordingCancelled taken.size requested)])
      fun given => given.samples.size = taken.size ∧
        uncounted period requested before given =
          uncounted period requested before { samples := taken, requested := requested } := by
    intro taken
    dsimp only
    cases Series.isComplete { samples := taken, requested := requested } with
    | true => exact Act.follows_pure ⟨rfl, rfl⟩
    | false => exact Act.follows_emit_bind (Act.follows_pure ⟨rfl, rfl⟩)
  have sampled := balances_sampleFrom period requested (started period requested before)
  exact (sampled.followed_by closes).of_eq rfl rfl

end Ticks

end Rover.Recording
