import Rover.Monitor.Watch
import Rover.Proofs.Score

/-!
# The course of a watch

The course of a watch is what every second would bring if nothing ended the watch: a sample or
the failure to take it, and a tick. The first second that brings something decisive settles how
the watch ends, what it reports, and how long it says that it took.
-/

namespace Rover.Monitor

/-- What a monitor watches. -/
inductive Target where
  | light (sensor : LightSensor)
  | temperature
  deriving DecidableEq, Repr

namespace Target

def kind : Target → MonitorKind
  | .light _ => .light
  | .temperature => .temperature

/-- The calls that one sample takes. -/
def calls : Target → List Call
  | .light .left => [.leftLight]
  | .light .right => [.rightLight]
  | .light .both => [.leftLight, .rightLight]
  | .temperature => [.temperature]

variable {ρ τ : Type} [Robot ρ]

/-- Takes one sample. -/
def read : Target → Act ρ τ Sample
  | .light sensor => readLight sensor
  | .temperature => readTemperature

/-- Watches the target. -/
def watch [Ticker τ] (tone : AlarmTone) (settings : MonitorSettings) :
    Target → Act ρ τ MonitorReport
  | .light sensor => watchLight tone sensor settings
  | .temperature => watchTemperature tone settings

/-- Taking a sample tries its calls in order, and reports nothing. -/
theorem follows_read (target : Target) :
    (target.read : Act ρ τ Sample).Follows (target.calls.map .silent) fun _ => True := by
  cases target with
  | temperature => exact Act.follows_silent_bind fun _ => Act.follows_pure trivial
  | light sensor =>
      cases sensor with
      | left | right => exact Act.follows_silent_bind fun _ => Act.follows_pure trivial
      | both =>
          apply Act.follows_silent_bind
          intro _
          exact Act.follows_silent_bind fun _ => Act.follows_pure trivial

end Target

section Course

variable {ρ τ : Type} [Robot ρ] [Ticker τ]

/-- The report of a sample. -/
def sampleReport (target : Target) (number : Nat) (sample : Sample) : Event :=
  .monitorSample target.kind number sample.sides.1 sample.sides.2

/-- The second of the given number, counted from one: a sample, its report, and a tick. -/
def second (target : Target) (number : Nat) : Act ρ τ (Sample × Tick) := do
  let sample ← target.read
  Act.emit (sampleReport target number sample)
  let tick ← Act.tick oneSecond
  pure (sample, tick)

/-- The world after so many seconds, if nothing ends the watch before. -/
def worldAfter (target : Target) (start : World ρ τ) : (passed : Nat) → World ρ τ
  | 0 => start
  | passed + 1 => Act.leaves (second target (passed + 1)) (worldAfter target start passed)

/-- What the next second brings when so many have passed. -/
def course (target : Target) (start : World ρ τ) (passed : Nat) :
    Except DeviceError (Sample × Tick) :=
  Act.answer (second target (passed + 1)) (worldAfter target start passed)

/-- Whether a second ends the watch: its sample failed, or crosses the threshold, or its tick
was cancelled. -/
def decisive (settings : MonitorSettings) : Except DeviceError (Sample × Tick) → Bool
  | .error _ => true
  | .ok (sample, tick) =>
    sample.exceeds settings.range settings.threshold || tick = .cancelled

/-- How many seconds of the duration pass before the first decisive one, if there is one. -/
def firstDecisive? (target : Target) (settings : MonitorSettings) (start : World ρ τ) :
    Option Nat :=
  (List.range settings.durationSeconds.toNat).find? fun passed =>
    decisive settings (course target start passed)

/-- The samples of the first seconds. -/
def samples (target : Target) (start : World ρ τ) (count : Nat) : List Sample :=
  (List.range count).filterMap fun passed => (course target start passed).toOption.map Prod.fst

/-- What a second leads to: an ending, or a further second. -/
theorem watchFrom_succ (target : Target) (settings : MonitorSettings) (remaining elapsed : Nat)
    (taken : Array Sample) :
    (watchFrom target.kind settings target.read (remaining + 1) elapsed taken :
      Act ρ τ MonitorReport) =
      second target (elapsed + 1) >>= fun (sample, tick) =>
        if sample.exceeds settings.range settings.threshold then
          pure ⟨.triggered, elapsed + 1, taken.push sample⟩
        else if tick = .cancelled then pure ⟨.cancelled, elapsed, taken.push sample⟩
        else
          watchFrom target.kind settings target.read remaining (elapsed + 1)
            (taken.push sample) := by
  simp only [second, bind_assoc, pure_bind]
  rfl

theorem samples_succ_of_ok {target : Target} {start : World ρ τ} {passed : Nat}
    {sample : Sample} {tick : Tick} (brings : course target start passed = .ok (sample, tick)) :
    samples target start (passed + 1) = samples target start passed ++ [sample] := by
  simp only [samples, List.range_succ, List.filterMap_append]
  simp [brings, Except.toOption]

/-- The result of a watch from the course: what its first decisive second makes of it. -/
def resultAt (target : Target) (settings : MonitorSettings) (start : World ρ τ)
    (last : Nat) : EStateM.Result DeviceError (World ρ τ) MonitorReport :=
  let after := worldAfter target start (last + 1)
  let taken := (samples target start (last + 1)).toArray
  match course target start last with
  | .error error => .error error after
  | .ok (sample, _) =>
    if sample.exceeds settings.range settings.threshold then .ok ⟨.triggered, last + 1, taken⟩ after
    else .ok ⟨.cancelled, last, taken⟩ after

theorem watchFrom_eq (target : Target) (settings : MonitorSettings) (start : World ρ τ)
    (remaining passed : Nat) :
    watchFrom target.kind settings target.read remaining passed
        (samples target start passed).toArray (worldAfter target start passed) =
      match (List.range' passed remaining).find? fun second =>
        decisive settings (course target start second) with
      | none =>
        .ok ⟨.timedOut, passed + remaining, (samples target start (passed + remaining)).toArray⟩
          (worldAfter target start (passed + remaining))
      | some last => resultAt target settings start last := by
  induction remaining generalizing passed with
  | zero => rfl
  | succ remaining ih =>
      rw [watchFrom_succ, List.range'_succ, List.find?_cons]
      cases brings : course target start passed with
      | error error =>
          rw [Act.bind_of_error (Act.eq_error_of_answer brings)]
          simp only [decisive, resultAt, brings]
          rfl
      | ok both =>
          rcases both with ⟨sample, tick⟩
          rw [Act.bind_of_ok (Act.eq_ok_of_answer brings)]
          have grown : ((samples target start passed).toArray).push sample =
              (samples target start (passed + 1)).toArray := by
            rw [samples_succ_of_ok brings, List.push_toArray]
          change (if sample.exceeds settings.range settings.threshold then _ else _ :
            Act ρ τ MonitorReport) (worldAfter target start (passed + 1)) = _
          rw [grown]
          by_cases crossed : sample.exceeds settings.range settings.threshold = true
          · have decides : decisive settings (.ok (sample, tick)) = true := by
              rw [decisive, crossed, Bool.true_or]
            simp only [decides, resultAt, brings, crossed, if_true]
            rfl
          · cases tick with
            | cancelled =>
                have decides : decisive settings (.ok (sample, .cancelled)) = true := by
                  simp [decisive]
                simp only [decides, resultAt, brings, crossed, if_true]
                rfl
            | elapsed =>
                have undecided : decisive settings (.ok (sample, .elapsed)) = false := by
                  simp [decisive, crossed]
                have further := ih (passed + 1)
                rw [Nat.add_right_comm passed 1 remaining] at further
                simp only [undecided, crossed]
                exact further

/-! ## What the seconds leave in the journal -/

theorem second_of_ok {target : Target} {before between : World ρ τ} {sample : Sample}
    (readings : target.read before = .ok sample between) (number : Nat) :
    let ticked := Ticker.tick oneSecond between.clock between.ticker
    second target number before =
      .ok (sample, ticked.tick)
        (Act.afterTick ticked (between.record (.event (sampleReport target number sample)))) := by
  rw [second, Act.bind_of_ok readings]
  rfl

theorem second_of_error {target : Target} {before after : World ρ τ} {error : DeviceError}
    (readings : (target.read : Act ρ τ Sample) before = .error error after) (number : Nat) :
    second target number before = .error error after := by
  rw [second, Act.bind_of_error readings]

/-- What a whole second leaves: the calls of its sample, and its report. -/
def secondDeeds (target : Target) (number : Nat) (sample : Sample) : Journal :=
  (target.calls.map fun call => .call call none) ++ [.event (sampleReport target number sample)]

/-- What the first whole seconds leave. -/
def deedsOf (target : Target) (taken : List Sample) : Journal :=
  (taken.mapIdx fun passed sample => secondDeeds target (passed + 1) sample).flatten

theorem deedsOf_concat (target : Target) (taken : List Sample) (sample : Sample) :
    deedsOf target (taken ++ [sample]) =
      deedsOf target taken ++ secondDeeds target (taken.length + 1) sample := by
  simp [deedsOf, List.mapIdx_append]

theorem deeds_of_second_ok {target : Target} {number : Nat} {before after : World ρ τ}
    {sample : Sample} {tick : Tick} (ran : second target number before = .ok (sample, tick) after) :
    after.history.deeds = before.history.deeds ++ secondDeeds target number sample := by
  cases readings : (target.read : Act ρ τ Sample) before with
  | error error between =>
      rw [second_of_error readings] at ran
      cases ran
  | ok taken between =>
      rw [second_of_ok readings] at ran
      cases ran
      rcases target.follows_read.of_ok readings with ⟨completed, carries, -⟩
      have records := Score.records_play_of_none completed
      simp [carries.deeds, records, secondDeeds, Journal.succeeded]

/-- A second whose sample fails adds the calls up to the one that failed. -/
theorem deeds_of_second_error {target : Target} {number : Nat} {before after : World ρ τ}
    {error : DeviceError} (ran : second target number before = .error error after) :
    ∃ tried, Tried target.calls tried (some error) ∧
      after.history.deeds = before.history.deeds ++ tried.map Record.ofAttempt := by
  cases readings : (target.read : Act ρ τ Sample) before with
  | ok taken between =>
      rw [second_of_ok readings] at ran
      cases ran
  | error failure between =>
      rw [second_of_error readings] at ran
      cases ran
      rcases target.follows_read.of_error readings with ⟨failed, carries⟩
      have tried := Score.tried_play_silent target.calls before.robot
      rw [failed] at tried
      refine ⟨_, tried, ?_⟩
      rw [carries.deeds, ← Score.records_play_silent]

/-- So many seconds were sampled, and the journal shows them and then some further deeds. -/
structure Sampled (target : Target) (start : World ρ τ) (count : Nat) (further : Journal)
    (after : World ρ τ) : Prop where
  length : (samples target start count).length = count
  deeds : after.history.deeds =
    start.history.deeds ++ deedsOf target (samples target start count) ++ further

theorem Sampled.followed_by {target : Target} {start between after : World ρ τ} {count : Nat}
    {first second : Journal} (sampled : Sampled target start count first between)
    (deeds : after.history.deeds = between.history.deeds ++ second) :
    Sampled target start count (first ++ second) after where
  length := sampled.length
  deeds := by rw [deeds, sampled.deeds, List.append_assoc]

theorem sampled_worldAfter {target : Target} {start : World ρ τ} {count : Nat}
    (complete : ∀ passed < count, ∃ brought, course target start passed = .ok brought) :
    Sampled target start count [] (worldAfter target start count) := by
  induction count with
  | zero => exact ⟨rfl, by simp [samples, deedsOf, worldAfter]⟩
  | succ count ih =>
      rcases ih fun passed below => complete passed (Nat.lt_succ_of_lt below) with ⟨length, deeds⟩
      rcases complete count (Nat.lt_succ_self count) with ⟨⟨sample, tick⟩, brings⟩
      have added := deeds_of_second_ok (Act.eq_ok_of_answer brings)
      have grown := samples_succ_of_ok brings
      constructor
      · rw [grown, List.length_append, length]
        rfl
      · rw [grown, deedsOf_concat, length, ← List.append_assoc]
        rw [List.append_nil] at deeds ⊢
        rw [← deeds]
        exact added

/-- A second that is not decisive is a whole one. -/
theorem exists_ok_of_not_decisive {settings : MonitorSettings}
    {brought : Except DeviceError (Sample × Tick)} (undecided : decisive settings brought = false) :
    ∃ both, brought = .ok both := by
  cases brought with
  | error error => cases undecided
  | ok both => exact ⟨both, rfl⟩

theorem firstDecisive?_eq_none_iff {target : Target} {settings : MonitorSettings}
    {start : World ρ τ} :
    firstDecisive? target settings start = none ↔
      ∀ passed < settings.durationSeconds.toNat,
        decisive settings (course target start passed) = false := by
  simp only [firstDecisive?, List.find?_range_eq_none, Bool.not_eq_true']

theorem firstDecisive?_eq_some_iff {target : Target} {settings : MonitorSettings}
    {start : World ρ τ} {last : Nat} :
    firstDecisive? target settings start = some last ↔
      last < settings.durationSeconds.toNat ∧
        decisive settings (course target start last) = true ∧
        ∀ passed < last, decisive settings (course target start passed) = false := by
  simp only [firstDecisive?, List.find?_range_eq_some, Bool.not_eq_true', List.mem_range]
  exact and_left_comm

end Course

end Rover.Monitor
