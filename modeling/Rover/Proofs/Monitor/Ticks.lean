import Rover.Proofs.Monitor.Ending
import Rover.Proofs.Rounds

/-!
# The ticks of a watch

The seconds of a watch are the rounds of a paced loop. A crossing counts its second even if the
ticker refused it, a cancellation does not, so the seconds that a watch reports are the periods
that elapsed but for a crossing with a refused tick.
-/

namespace Rover.Monitor

section Rounds

variable {ρ τ : Type} [Robot ρ] [Ticker τ] (target : Target) (start : World ρ τ)

/-- A second as a round, by the seconds that have passed before. -/
def round (passed : Nat) : Act ρ τ (Sample × Tick) := second target (passed + 1)

theorem worldAfter_eq (passed : Nat) :
    worldAfter target start passed = Act.worldAfter (round target) start passed := by
  induction passed with
  | zero => rfl
  | succ passed ih =>
      rw [worldAfter, ih]
      rfl

theorem course_eq (passed : Nat) :
    course target start passed = Act.course (round target) start passed := by
  rw [course, worldAfter_eq]
  rfl

theorem samples_eq (count : Nat) :
    samples target start count = (Act.gains (round target) start count).map Prod.fst := by
  rw [samples, Act.gains, List.map_filterMap]
  simp only [course_eq]

end Rounds

variable {ρ : Type} [Robot ρ]

theorem asks_round (target : Target) (passed : Nat) :
    (round target passed : Act ρ ManualTicker (Sample × Tick)).Asks oneSecond :=
  Act.asks_paced target.follows_read (fun _ => Act.follows_emit _) oneSecond

variable {target : Target} {settings : MonitorSettings} {start : World ρ ManualTicker}

/-- A second that is not decisive is a full one. -/
theorem fullUntil {count : Nat}
    (undecided : ∀ passed < count, decisive settings (course target start passed) = false) :
    Act.FullUntil (round target) start count := by
  intro passed below
  rw [← course_eq]
  have left := undecided passed below
  obtain ⟨⟨sample, tick⟩, brings⟩ := exists_ok_of_not_decisive left
  rw [brings] at left ⊢
  cases tick with
  | elapsed => exact ⟨sample, rfl⟩
  | cancelled => simp [decisive] at left

/-- The answers of the ticker in the first seconds of a watch. -/
def ticks (target : Target) (settings : MonitorSettings) (before : World ρ ManualTicker)
    (count : Nat) : List Tick :=
  Act.ticks (round target) (started target settings before) count

/-- How many of the reported seconds no period elapsed for: one if the watch ended by a crossing
whose tick was refused, and else none. -/
def uncounted (target : Target) (settings : MonitorSettings) (before : World ρ ManualTicker)
    (report : MonitorReport) : Nat :=
  if report.status = .triggered ∧
    (ticks target settings before report.samples.size).getLast? = some .cancelled then 1 else 0

theorem uncounted_of_not_triggered (before : World ρ ManualTicker) {status : MonitorStatus}
    (other : status ≠ .triggered) (elapsed : Nat) (taken : Array Sample) :
    uncounted target settings before ⟨status, elapsed, taken⟩ = 0 :=
  if_neg fun both => other both.1

/-- The second of a crossing is a period, or it is not counted. -/
theorem uncounted_of_triggered {before : World ρ ManualTicker} {taken : Array Sample}
    {tick : Tick} (answers : (ticks target settings before taken.size).getLast? = some tick)
    (elapsed : Nat) :
    [tick].count .elapsed + uncounted target settings before ⟨.triggered, elapsed, taken⟩ = 1 := by
  simp only [uncounted, answers, true_and]
  cases tick with
  | elapsed => rfl
  | cancelled => rfl

/-- The seconds of a watch balance with its report. -/
theorem balances_watchFrom (target : Target) (settings : MonitorSettings)
    (before : World ρ ManualTicker) :
    Act.Balances oneSecond MonitorReport.elapsedSeconds (uncounted target settings before)
      (watchFrom target.kind settings target.read settings.durationSeconds.toNat 0 #[])
      (started target settings before) := by
  have settled := watchFrom_zero_eq target settings (started target settings before)
  cases first : firstDecisive? target settings (started target settings before) with
  | none =>
      simp only [first] at settled
      have full := fullUntil (firstDecisive?_eq_none_iff.mp first)
      rw [worldAfter_eq] at settled
      refine .of_ok settled (full.advances (asks_round target)) ?_
      rw [uncounted_of_not_triggered before (by decide)]
      rfl
  | some last =>
      simp only [first] at settled
      obtain ⟨-, decides, undecided⟩ := firstDecisive?_eq_some_iff.mp first
      have full := fullUntil undecided
      cases brings : course target (started target settings before) last with
      | error error =>
          simp only [resultAt, brings, worldAfter_eq] at settled
          rw [course_eq] at brings
          exact .of_error settled (full.advances_of_error (asks_round target) brings)
      | ok both =>
          obtain ⟨sample, tick⟩ := both
          simp only [resultAt, brings, worldAfter_eq] at settled
          rw [brings] at decides
          rw [course_eq] at brings
          have advances := full.advances_of_ok (asks_round target) brings
          have answers := Act.getLast?_ticks_of_ok brings
          split at settled
          next crossed =>
            have size : (samples target (started target settings before) (last + 1)).length =
                last + 1 := by
              rw [samples_eq, List.length_map, full.length_gains_succ brings]
            rw [← List.size_toArray] at size
            rw [← size] at answers
            refine .of_ok settled advances ?_
            rw [Nat.add_assoc, uncounted_of_triggered answers]
          next uncrossed =>
            have refused : tick = .cancelled := by simpa [decisive, uncrossed] using decides
            refine .of_ok settled advances ?_
            rw [uncounted_of_not_triggered before (by decide), refused]
            rfl

/-- So does a watch as a whole, since an ending is calls and reports. -/
theorem balances_watch (tone : AlarmTone) (settings : MonitorSettings) (target : Target)
    (before : World ρ ManualTicker) :
    Act.Balances oneSecond MonitorReport.elapsedSeconds (uncounted target settings before)
      (target.watch tone settings) before := by
  have closes : ∀ report : MonitorReport, (do
      conclude tone target.kind report
      pure report : Act ρ ManualTicker MonitorReport).Follows (closing tone target.kind report)
      fun given => given.elapsedSeconds = report.elapsedSeconds ∧
        uncounted target settings before given = uncounted target settings before report := by
    intro report
    apply Act.follows_bind_quiet (follows_conclude tone target.kind report)
    intro _ _
    exact Act.follows_pure ⟨rfl, rfl⟩
  have seconds := balances_watchFrom target settings before
  exact (seconds.followed_by closes).of_eq (watch_eq tone settings target before) rfl

end Rover.Monitor
