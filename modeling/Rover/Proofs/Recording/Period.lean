import Rover.Proofs.Binary64.Order
import Rover.Proofs.Entry.Range
import Rover.Proofs.Recording.Pacing

/-!
# Entered periods

An entered period is a number of seconds, of which the conversion to nanoseconds fails outside of
the range of durations. The bounds of an entry keep it far inside. The nanoseconds depend on the
magnitude alone and keep its order, so the two bounds settle all between them, and the wait of the
robot is the period without its part of a millisecond.
-/

namespace Rover.Recording

open Binary64 (signedUnits)

/-! ## The nanoseconds of a magnitude -/

/-- The nanoseconds of a magnitude in seconds, rounded once. -/
def nanosOf (rank : Rank) : Nat := Tie.toEven.round (rank.units * oneSecond) unitsPerOne

/-- The magnitude of the shortest period. It is a little above a tenth, which is not on the grid. -/
def leastRank : Rank := .nearest (1 * unitsPerOne) 10

section Magnitude

variable {rank rank' : Rank} {seconds : Nat}

theorem nanosOf_mono (ordered : rank ≤ rank') : nanosOf rank ≤ nanosOf rank' := by
  apply Tie.toEven.round_mono unitsPerOne_pos
  apply Nat.mul_le_mul_right
  exact Rank.units_le_units.mpr ordered

/-- Of whole seconds the nanoseconds are not rounded. -/
theorem nanosOf_ofNat (fits : seconds ≤ 2 * binadeSize) :
    nanosOf (Rank.ofNat seconds) = seconds * oneSecond := by
  have product : (Rank.ofNat seconds).units * oneSecond = seconds * oneSecond * unitsPerOne := by
    rw [Rank.units_ofNat fits]
    ring
  rw [nanosOf, product, Tie.toEven.round_mul _ _ unitsPerOne_pos]

theorem nanosOf_leastRank : nanosOf leastRank = 100000000 := by decide +kernel

theorem nanosOf_bounds (least : leastRank ≤ rank) (most : rank ≤ Rank.ofNat 3600) :
    100000000 ≤ nanosOf rank ∧ nanosOf rank ≤ 3600000000000 := by
  have longest : nanosOf (Rank.ofNat 3600) = 3600000000000 := nanosOf_ofNat (by decide)
  rw [← nanosOf_leastRank, ← longest]
  exact ⟨nanosOf_mono least, nanosOf_mono most⟩

end Magnitude

/-- The period is the whole number of nanoseconds nearest to a finite number of seconds: it is at
most half a nanosecond away. -/
def IsNearest (seconds : Binary64) (period : Nat) : Prop :=
  ∃ negative rank, seconds = .number negative rank ∧ rank ≠ .infinity ∧
    2 * (period * unitsPerOne - signedUnits negative rank * oneSecond).natAbs ≤ unitsPerOne

theorem isNearest_nanosOf {rank : Rank} (finite : rank ≠ .infinity) :
    IsNearest (.number false rank) (nanosOf rank) := by
  have up := Tie.toEven.round_le (rank.units * oneSecond) unitsPerOne unitsPerOne_pos
  have down := Tie.toEven.le_round (rank.units * oneSecond) unitsPerOne unitsPerOne_pos
  rw [← nanosOf] at up down
  refine ⟨false, rank, rfl, finite, ?_⟩
  have units : signedUnits false rank = rank.units := rfl
  rw [units, ← Int.natCast_mul, ← Int.natCast_mul]
  omega

/-! ## Accepted numbers of seconds -/

section Seconds

variable {seconds : Binary64} {rank : Rank}

/-- Between the bounds there is no minus sign, not even that of a zero. -/
theorem exists_magnitude (low : leastPeriod ≤ seconds) (high : seconds ≤ greatestPeriod) :
    ∃ rank, seconds = .number false rank ∧ leastRank ≤ rank ∧ rank ≤ Rank.ofNat 3600 := by
  obtain ⟨negative, rank, rfl⟩ := Binary64.exists_number (Binary64.ne_nan_of_le low).2
  have least : Binary64.place false leastRank ≤ Binary64.place negative rank :=
    of_decide_eq_true low
  have most : Binary64.place negative rank ≤ Binary64.place false (Rank.ofNat 3600) :=
    of_decide_eq_true high
  cases negative with
  | false => exact ⟨rank, rfl, Int.ofNat_le.mp least, Int.ofNat_le.mp most⟩
  | true =>
      have positive : 0 < leastRank.val := by decide +kernel
      change (leastRank.val : Int) ≤ -(rank.val : Int) at least
      omega

/-- The conversion does not fail on a magnitude of at most an hour. -/
theorem durationOf?_number (most : rank ≤ Rank.ofNat 3600) :
    durationOf? (.number false rank) = some (nanosOf rank) := by
  have finite : rank ≠ .infinity := Rank.ne_infinity_of_le most (by decide)
  have hour : Rank.ofNat 3600 < Rank.ofNat (twoTo 64) := by decide +kernel
  have positive : Binary64.zero ≤ .number false rank := by
    rw [Binary64.zero, Binary64.number_le_number]
    exact Int.ofNat_le.mpr (Nat.zero_le rank.val)
  have short : .number false rank < durationEnd := by
    change _ < Binary64.number false (Rank.ofNat (twoTo 64))
    rw [Binary64.number_lt_number]
    exact Int.ofNat_lt.mpr (Fin.lt_of_le_of_lt most hour)
  rw [durationOf?, if_pos ⟨positive, short⟩, Binary64.nearestParts, if_neg finite, nanosOf]

/-- What would make the conversion fail, and all else that is too great, is out of the bounds. -/
theorem not_within_of_unfit
    (unfit : seconds = .nan ∨ (∃ rank, seconds = .number true rank) ∨
      (∃ negative, seconds = .infinity negative) ∨ greatestPeriod < seconds) :
    ¬(leastPeriod ≤ seconds ∧ seconds ≤ greatestPeriod) := by
  rintro ⟨low, high⟩
  obtain ⟨rank, rfl, -, most⟩ := exists_magnitude low high
  rcases unfit with ⟨⟨⟩⟩ | ⟨_, ⟨⟩⟩ | ⟨_, infinite⟩ | beyond
  · obtain ⟨-, infinite⟩ := Binary64.number.inj infinite
    exact Rank.ne_infinity_of_le most (by decide) infinite
  · exact Binary64.not_le_of_lt beyond high

end Seconds

/-! ## Entries -/

section Entries

variable {raw : String} {seconds seconds' : Binary64} {period period' : Nat}

theorem within_iff :
    Entry.inRange leastPeriod greatestPeriod raw = .ok seconds ↔
      Binary64.read (Text.trim raw.toList) = some seconds ∧
        leastPeriod ≤ seconds ∧ seconds ≤ greatestPeriod :=
  Entry.inRange_eq_ok_iff

theorem outOfRange_of_not_within (read : Binary64.read (Text.trim raw.toList) = some seconds)
    (outside : ¬(leastPeriod ≤ seconds ∧ seconds ≤ greatestPeriod)) :
    Entry.inRange leastPeriod greatestPeriod raw =
      .error (.outOfRange leastPeriod greatestPeriod) :=
  Entry.inRange_eq_outOfRange_iff.mpr ⟨seconds, read, outside⟩

/-- An accepted number of seconds is converted. -/
theorem periodOfEntry_of_within
    (entered : Entry.inRange leastPeriod greatestPeriod raw = .ok seconds) :
    ∃ period, durationOf? seconds = some period ∧ periodOfEntry raw = .ok period := by
  obtain ⟨-, low, high⟩ := within_iff.mp entered
  obtain ⟨rank, rfl, -, most⟩ := exists_magnitude low high
  have converted := durationOf?_number most
  refine ⟨nanosOf rank, converted, ?_⟩
  rw [periodOfEntry, entered]
  change Except.ok ((durationOf? (.number false rank)).getD 0) = _
  rw [converted, Option.getD_some]

/-- The conversion refuses nothing itself. -/
theorem periodOfEntry_eq_error_iff {error : EntryError} :
    periodOfEntry raw = .error error ↔
      Entry.inRange leastPeriod greatestPeriod raw = .error error := by
  rw [periodOfEntry]
  cases Entry.inRange leastPeriod greatestPeriod raw with
  | error refusal =>
      constructor
      · rintro ⟨⟩
        rfl
      · rintro ⟨⟩
        rfl
  | ok seconds => exact iff_of_false (by rintro ⟨⟩) (by rintro ⟨⟩)

theorem periodOfEntry_eq_ok_iff :
    periodOfEntry raw = .ok period ↔ ∃ seconds,
      Entry.inRange leastPeriod greatestPeriod raw = .ok seconds ∧
        durationOf? seconds = some period := by
  constructor
  · intro accepted
    cases entered : Entry.inRange leastPeriod greatestPeriod raw with
    | error error =>
        rw [periodOfEntry_eq_error_iff.mpr entered] at accepted
        cases accepted
    | ok seconds =>
        obtain ⟨converted, duration, same⟩ := periodOfEntry_of_within entered
        rw [same] at accepted
        rw [Except.ok.inj accepted] at duration
        exact ⟨seconds, rfl, duration⟩
  · rintro ⟨seconds, entered, duration⟩
    obtain ⟨converted, duration', same⟩ := periodOfEntry_of_within entered
    rw [same, Option.some.inj (duration'.symm.trans duration)]

/-- Between the bounds the duration is the nearest one, and between those of the bounds. -/
theorem isNearest_of_within (low : leastPeriod ≤ seconds) (high : seconds ≤ greatestPeriod)
    (duration : durationOf? seconds = some period) :
    IsNearest seconds period ∧ 100000000 ≤ period ∧ period ≤ 3600000000000 := by
  obtain ⟨rank, rfl, least, most⟩ := exists_magnitude low high
  rw [durationOf?_number most] at duration
  rw [← Option.some.inj duration]
  exact ⟨isNearest_nanosOf (Rank.ne_infinity_of_le most (by decide)), nanosOf_bounds least most⟩

/-- A longer period has no shorter duration. -/
theorem duration_mono (low : leastPeriod ≤ seconds) (ordered : seconds ≤ seconds')
    (high : seconds' ≤ greatestPeriod) (duration : durationOf? seconds = some period)
    (duration' : durationOf? seconds' = some period') : period ≤ period' := by
  obtain ⟨rank, rfl, -, most⟩ := exists_magnitude low (Binary64.atMost_trans ordered high)
  obtain ⟨rank', rfl, -, most'⟩ := exists_magnitude (Binary64.atMost_trans low ordered) high
  rw [durationOf?_number most] at duration
  rw [durationOf?_number most'] at duration'
  rw [Binary64.number_le_number] at ordered
  rw [← Option.some.inj duration, ← Option.some.inj duration']
  exact nanosOf_mono (Int.ofNat_le.mp ordered)

end Entries

/-! ## Waits -/

/-- Up to an hour the wait of the robot is not cut off by its word. -/
theorem waitOf_bounds {period : Nat} (least : 100000000 ≤ period)
    (most : period ≤ 3600000000000) :
    let wait := (waitOf period).toNat
    wait = period / oneMillisecond ∧ (100 ≤ wait ∧ wait ≤ 3600000) ∧
      wait * oneMillisecond ≤ period ∧ period < wait * oneMillisecond + oneMillisecond := by
  have million : oneMillisecond = 1000000 := rfl
  have word : UInt32.size - 1 = 4294967295 := rfl
  have whole : (waitOf period).toNat = period / oneMillisecond := by
    rw [toNat_waitOf, word, million]
    omega
  intro wait
  rw [show wait = period / oneMillisecond from whole, million]
  omega

variable {ρ τ : Type} [Robot ρ]

/-- A recording at the pace of waits tries a sample and its wait in turn, up to the first call that
fails. -/
theorem tried_withWaits (period : Nat) (requested : Count) (before : World ρ τ) :
    let attempts := ((withWaits period requested : Act ρ τ Series).deeds before).attempts
    Tried (List.replicate requested.number [Call.temperature, .wait (waitOf period)]).flatten
      attempts (attempts.findSome? Prod.snd) := by
  intro attempts
  have carries := (follows_withWaits period requested).carries before
  have tried := Score.tried_play (score period requested) before.robot
  have same : (withWaits period requested : Act ρ τ Series).deeds before =
      ((score period requested).play before.robot).records := Act.deeds_eq carries.deeds
  rw [calls_score, ← same] at tried
  rwa [tried.findSome?_eq]

/-- Each entry of a period is accepted just if it is read as a number between a tenth and 3600, and
then its conversion to a duration does not fail. The duration is nearest to the number and lies
between those of the bounds, and of a greater number it is not shorter. After each sample a
recording waits for the whole milliseconds of the duration, which fit the word of a wait. Whatever
would make the conversion fail is refused before, as out of the range. -/
theorem entered_periods_convert (raw : String) (requested : Count) (before : World ρ τ) :
    let read := Binary64.read (Text.trim raw.toList)
    (∀ seconds, read = some seconds → leastPeriod ≤ seconds → seconds ≤ greatestPeriod →
      ∃ period, durationOf? seconds = some period ∧ periodOfEntry raw = .ok period) ∧
    (∀ period, periodOfEntry raw = .ok period →
      let wait := (waitOf period).toNat
      let attempts := ((withWaits period requested : Act ρ τ Series).deeds before).attempts
      (∃ seconds, read = some seconds ∧ (leastPeriod ≤ seconds ∧ seconds ≤ greatestPeriod) ∧
        durationOf? seconds = some period ∧ IsNearest seconds period ∧
        ∀ raw' seconds' period', Binary64.read (Text.trim raw'.toList) = some seconds' →
          periodOfEntry raw' = .ok period' → seconds ≤ seconds' → period ≤ period') ∧
      (100000000 ≤ period ∧ period ≤ 3600000000000) ∧
      (wait = period / oneMillisecond ∧ (100 ≤ wait ∧ wait ≤ 3600000) ∧
        wait * oneMillisecond ≤ period ∧ period < wait * oneMillisecond + oneMillisecond) ∧
      Tried (List.replicate requested.number
        [Call.temperature, .wait (waitOf period)]).flatten attempts (attempts.findSome? Prod.snd)) ∧
    ∀ seconds, read = some seconds →
      (seconds = .nan ∨ (∃ rank, seconds = .number true rank) ∨
        (∃ negative, seconds = .infinity negative) ∨ greatestPeriod < seconds) →
      Entry.inRange leastPeriod greatestPeriod raw =
          .error (.outOfRange leastPeriod greatestPeriod) ∧
        periodOfEntry raw = .error (.outOfRange leastPeriod greatestPeriod) := by
  intro read
  refine ⟨?accepts, ?converts, ?refuses⟩
  case accepts =>
    intro seconds same low high
    exact periodOfEntry_of_within (within_iff.mpr ⟨same, low, high⟩)
  case converts =>
    intro period accepted wait attempts
    obtain ⟨seconds, entered, duration⟩ := periodOfEntry_eq_ok_iff.mp accepted
    obtain ⟨same, low, high⟩ := within_iff.mp entered
    obtain ⟨near, least, most⟩ := isNearest_of_within low high duration
    refine ⟨⟨seconds, same, ⟨low, high⟩, duration, near, ?_⟩, ⟨least, most⟩,
      waitOf_bounds least most, tried_withWaits period requested before⟩
    intro raw' seconds' period' read' accepted' ordered
    obtain ⟨_, entered', duration'⟩ := periodOfEntry_eq_ok_iff.mp accepted'
    obtain ⟨same', -, high'⟩ := within_iff.mp entered'
    cases same'.symm.trans read'
    exact duration_mono low ordered high' duration duration'
  case refuses =>
    intro seconds same unfit
    have refused := outOfRange_of_not_within same (not_within_of_unfit unfit)
    exact ⟨refused, periodOfEntry_eq_error_iff.mpr refused⟩

/-- The shortest period, which is read as a little more than a tenth, and a negative one. -/
theorem entered_periods_convert_tenth :
    let before : World SimulatedRobot ManualTicker := ⟨{ connected := true }, {}, #[], 0⟩
    periodOfEntry " 1e-1" = .ok 100000000 ∧ IsNearest leastPeriod 100000000 ∧
      Tried [.temperature, .wait 100, .temperature, .wait 100]
        ((withWaits 100000000 (.ofWord 2) : Act SimulatedRobot ManualTicker Series).deeds
          before).attempts none ∧
      periodOfEntry "-1" = .error (.outOfRange leastPeriod greatestPeriod) := by
  intro before
  have tenth : Binary64.read (Text.trim " 1e-1".toList) = some leastPeriod := by decide +kernel
  have negative : Binary64.read (Text.trim "-1".toList) = some (.ofInt (-1)) := by decide +kernel
  have whole : durationOf? leastPeriod = some 100000000 := by decide +kernel
  have wait : waitOf 100000000 = 100 := by decide
  have completed :
      (((withWaits 100000000 (.ofWord 2) : Act SimulatedRobot ManualTicker Series).deeds
        before).attempts.findSome? Prod.snd) = none := by decide +kernel
  obtain ⟨accepts, converts, -⟩ := entered_periods_convert " 1e-1" (.ofWord 2) before
  obtain ⟨-, -, refuses⟩ := entered_periods_convert "-1" (.ofWord 2) before
  obtain ⟨period, duration, accepted⟩ :=
    accepts leastPeriod tenth (by decide +kernel) (by decide +kernel)
  obtain rfl : period = 100000000 := Option.some.inj (duration.symm.trans whole)
  obtain ⟨⟨seconds, read, -, -, near, -⟩, -, -, tried⟩ := converts 100000000 accepted
  rw [← Option.some.inj (tenth.symm.trans read)] at near
  rw [completed, wait] at tried
  exact ⟨accepted, near, tried, (refuses _ negative (.inr (.inl ⟨_, rfl⟩))).2⟩

end Rover.Recording
