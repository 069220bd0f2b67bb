import Rover.Proofs.Score

/-!
# Rounds of a paced loop

A loop that is paced by the ticker goes through rounds, and every round that comes to its end asks
the ticker once. So the books of a ticker that counts are settled by the answers it gave: every full
period is one more tick, and a refusal leaves the ticker as it is.
-/

namespace Rover

/-! ## Rounds -/

namespace Act

variable {ρ τ α : Type}

/-- The world after so many rounds, if nothing ends the loop before. -/
def worldAfter (round : Nat → Act ρ τ α) (start : World ρ τ) : (passed : Nat) → World ρ τ
  | 0 => start
  | passed + 1 => leaves (round passed) (worldAfter round start passed)

/-- What the next round brings when so many have passed. -/
def course (round : Nat → Act ρ τ α) (start : World ρ τ) (passed : Nat) : Except DeviceError α :=
  answer (round passed) (worldAfter round start passed)

/-- What the first rounds bring, in order. -/
def gains (round : Nat → Act ρ τ α) (start : World ρ τ) (count : Nat) : List α :=
  (List.range count).filterMap fun passed => (course round start passed).toOption

variable {round : Nat → Act ρ τ α} {start : World ρ τ} {passed : Nat}

theorem gains_succ_of_ok {gain : α} (brings : course round start passed = .ok gain) :
    gains round start (passed + 1) = gains round start passed ++ [gain] := by
  simp only [gains, List.range_succ, List.filterMap_append]
  simp [brings, Except.toOption]

theorem length_gains {count : Nat}
    (complete : ∀ passed < count, ∃ gain, course round start passed = .ok gain) :
    (gains round start count).length = count := by
  induction count with
  | zero => rfl
  | succ count ih =>
      obtain ⟨gain, brings⟩ := complete count (Nat.lt_succ_self count)
      rw [gains_succ_of_ok brings, List.length_append,
        ih fun passed below => complete passed (Nat.lt_succ_of_lt below)]
      rfl

theorem round_of_course_ok {gain : α} (brings : course round start passed = .ok gain) :
    round passed (worldAfter round start passed) =
      .ok gain (worldAfter round start (passed + 1)) :=
  eq_ok_of_answer brings

theorem round_of_course_error {error : DeviceError}
    (brings : course round start passed = .error error) :
    round passed (worldAfter round start passed) =
      .error error (worldAfter round start (passed + 1)) :=
  eq_error_of_answer brings

end Act

/-! ## The books of a ticker -/

namespace ManualTicker

/-- So many periods elapsed and nothing else changed. A cancelled ticker lets none elapse, and no
ticker lets more elapse than are left up to its limit. -/
structure Advances (period elapsed : Nat) (before after : ManualTicker) : Prop where
  periods : after.periods.toList = before.periods.toList ++ List.replicate elapsed period
  limit : after.limit = before.limit
  token : after.token = before.token
  within : ∀ most, before.limit = some most → elapsed ≤ most - before.ticks
  running : before.token = some true → elapsed = 0

namespace Advances

variable {period elapsed further : Nat} {before between after : ManualTicker}

theorem nowhere (period : Nat) (ticker : ManualTicker) : Advances period 0 ticker ticker where
  periods := (List.append_nil _).symm
  limit := rfl
  token := rfl
  within _ _ := Nat.zero_le _
  running _ := rfl

theorem ticks (advances : Advances period elapsed before after) :
    after.ticks = before.ticks + elapsed := by
  have lengths := congrArg List.length advances.periods
  rw [List.length_append, List.length_replicate] at lengths
  exact lengths

theorem total (advances : Advances period elapsed before after) :
    after.total = before.total + elapsed * period := by
  have sum : ∀ ticker : ManualTicker, ticker.total = ticker.periods.toList.sum := by
    intro ticker
    rw [ManualTicker.total, ← Array.foldl_toList, List.sum_eq_foldl]
  rw [sum, sum, advances.periods, List.sum_append, List.sum_replicate_nat]

theorem trans (early : Advances period elapsed before between)
    (late : Advances period further between after) :
    Advances period (elapsed + further) before after where
  periods := by
    rw [late.periods, early.periods, List.append_assoc, List.replicate_append_replicate]
  limit := late.limit.trans early.limit
  token := late.token.trans early.token
  within most limited := by
    have first := early.within most limited
    have second := late.within most (early.limit.trans limited)
    rw [early.ticks] at second
    omega
  running cancelled := by
    rw [early.running cancelled, late.running (early.token.trans cancelled)]

/-- One request lets one period elapse or changes nothing. -/
theorem tick (period : Nat) (ticker : ManualTicker) :
    Advances period ([(ticker.tick period).tick].count .elapsed) ticker
      (ticker.tick period).ticker := by
  rw [ManualTicker.tick]
  split
  next => exact nowhere period ticker
  next free =>
    simp only [isCancelled, Bool.or_eq_true, decide_eq_true_eq, not_or] at free
    obtain ⟨running, limited⟩ := free
    refine ⟨Array.toList_push, rfl, rfl, ?_, fun cancelled => absurd cancelled running⟩
    intro most limit
    rw [limit] at limited
    have left : ticker.ticks < most := by simpa using limited
    change 1 ≤ most - ticker.ticks
    omega

end Advances

end ManualTicker

/-! ## Rounds and ticks -/

namespace Act

variable {ρ α : Type}

/-- A round that comes to its end asks the ticker once and gives its answer; one that fails does not
ask it. -/
structure Asks (period : Nat) (round : Act ρ ManualTicker (α × Tick)) : Prop where
  of_ok : ∀ {before after gain tick}, round before = .ok (gain, tick) after →
    ManualTicker.Advances period ([tick].count .elapsed) before.ticker after.ticker
  of_error : ∀ {before after error}, round before = .error error after →
    after.ticker = before.ticker

/-- Something is taken and reported, and one period passes. -/
def paced (period : Nat) (action : Act ρ ManualTicker α) (report : α → Act ρ ManualTicker Unit) :
    Act ρ ManualTicker (α × Tick) := do
  let gain ← action
  report gain
  let tick ← tick period
  pure (gain, tick)

/-- Calls and reports do not ask the ticker, so a request after them is the only one. -/
theorem asks_paced [Robot ρ] {action : Act ρ ManualTicker α} {report : α → Act ρ ManualTicker Unit}
    {score : Score} {score' : α → Score} {gives : α → Prop} {gives' : α → Unit → Prop}
    (follows : action.Follows score gives)
    (reports : ∀ gain, (report gain).Follows (score' gain) (gives' gain)) (period : Nat) :
    Asks period (paced period action report) where
  of_ok {before after gain answer} ran := by
    cases taken : action before with
    | error error between =>
        rw [paced, bind_of_error taken] at ran
        cases ran
    | ok value between =>
        rw [paced, bind_of_ok taken] at ran
        cases reported : report value between with
        | error error between' =>
            rw [bind_of_error reported] at ran
            cases ran
        | ok _ between' =>
            rw [bind_of_ok reported, bind_of_ok (tick_eq period between')] at ran
            cases ran
            have unasked := ((reports _).of_ok reported).2.1.ticker
            rw [(follows.of_ok taken).2.1.ticker] at unasked
            rw [ticker_afterTick, ← unasked]
            exact .tick period between'.ticker
  of_error {before after error} ran := by
    cases taken : action before with
    | error failure between =>
        rw [paced, bind_of_error taken] at ran
        cases ran
        exact (follows.of_error taken).2.ticker
    | ok value between =>
        rw [paced, bind_of_ok taken] at ran
        cases reported : report value between with
        | ok _ between' =>
            rw [bind_of_ok reported, bind_of_ok (tick_eq period between')] at ran
            cases ran
        | error failure between' =>
            rw [bind_of_error reported] at ran
            cases ran
            have unasked := ((reports _).of_error reported).2.ticker
            rwa [(follows.of_ok taken).2.1.ticker] at unasked

variable {period : Nat} {round : Nat → Act ρ ManualTicker (α × Tick)}
  {start : World ρ ManualTicker} {count : Nat}

/-- The answers of the ticker in the first rounds. -/
def ticks (round : Nat → Act ρ ManualTicker (α × Tick)) (start : World ρ ManualTicker)
    (count : Nat) : List Tick :=
  (gains round start count).map Prod.snd

theorem ticks_succ_of_ok {passed : Nat} {gain : α} {tick : Tick}
    (brings : course round start passed = .ok (gain, tick)) :
    ticks round start (passed + 1) = ticks round start passed ++ [tick] := by
  simp only [ticks, gains_succ_of_ok brings, List.map_append, List.map_singleton]

/-- Up to the last round every period is a full one. -/
def FullUntil (round : Nat → Act ρ ManualTicker (α × Tick)) (start : World ρ ManualTicker)
    (count : Nat) : Prop :=
  ∀ passed < count, ∃ gain, course round start passed = .ok (gain, .elapsed)

theorem FullUntil.of_succ (full : FullUntil round start (count + 1)) :
    FullUntil round start count :=
  fun passed below => full passed (Nat.lt_succ_of_lt below)

theorem FullUntil.length_gains (full : FullUntil round start count) :
    (gains round start count).length = count := by
  apply Act.length_gains
  intro passed below
  obtain ⟨gain, brings⟩ := full passed below
  exact ⟨_, brings⟩

theorem FullUntil.length_gains_succ (full : FullUntil round start count) {gain : α × Tick}
    (brings : course round start count = .ok gain) :
    (gains round start (count + 1)).length = count + 1 := by
  rw [gains_succ_of_ok brings, List.length_append, full.length_gains]
  rfl

theorem FullUntil.ticks_eq (full : FullUntil round start count) :
    ticks round start count = List.replicate count .elapsed := by
  induction count with
  | zero => rfl
  | succ count ih =>
      obtain ⟨gain, brings⟩ := full count (Nat.lt_succ_self count)
      rw [ticks_succ_of_ok brings, ih full.of_succ, List.replicate_succ']

theorem FullUntil.getLast?_ne_cancelled (full : FullUntil round start count) :
    (ticks round start count).getLast? ≠ some .cancelled := by
  intro refused
  rw [full.ticks_eq] at refused
  cases List.eq_of_mem_replicate (List.mem_of_getLast? refused)

/-- Without an end before, as many periods elapse as rounds pass. -/
theorem FullUntil.advances (full : FullUntil round start count)
    (asks : ∀ passed, (round passed).Asks period) :
    ManualTicker.Advances period count start.ticker (worldAfter round start count).ticker := by
  induction count with
  | zero => exact .nowhere period start.ticker
  | succ count ih =>
      obtain ⟨gain, brings⟩ := full count (Nat.lt_succ_self count)
      exact (ih full.of_succ).trans ((asks count).of_ok (round_of_course_ok brings))

/-- A last round that comes to its end adds a period unless the ticker refuses it. -/
theorem FullUntil.advances_of_ok (full : FullUntil round start count)
    (asks : ∀ passed, (round passed).Asks period) {gain : α} {tick : Tick}
    (brings : course round start count = .ok (gain, tick)) :
    ManualTicker.Advances period (count + [tick].count .elapsed) start.ticker
      (worldAfter round start (count + 1)).ticker :=
  (full.advances asks).trans ((asks count).of_ok (round_of_course_ok brings))

/-- A last round that fails adds nothing. -/
theorem FullUntil.advances_of_error (full : FullUntil round start count)
    (asks : ∀ passed, (round passed).Asks period) {error : DeviceError}
    (brings : course round start count = .error error) :
    ManualTicker.Advances period count start.ticker
      (worldAfter round start (count + 1)).ticker := by
  rw [(asks count).of_error (round_of_course_error brings)]
  exact full.advances asks

/-- The last answer is that of the last round. -/
theorem getLast?_ticks_of_ok {gain : α} {tick : Tick}
    (brings : course round start count = .ok (gain, tick)) :
    (ticks round start (count + 1)).getLast? = some tick := by
  rw [ticks_succ_of_ok brings, List.getLast?_concat]

/-! ## Books -/

section Balances

variable {β : Type} {counted refused : α → Nat} {action : Act ρ ManualTicker α}
  {before after : World ρ ManualTicker} {elapsed : Nat}

/-- An action brings the ticker on by full periods, by as many as the value that it gives counts
but for those that were refused. -/
def Balances (period : Nat) (counted refused : α → Nat) (action : Act ρ ManualTicker α)
    (before : World ρ ManualTicker) : Prop :=
  ∃ elapsed, ManualTicker.Advances period elapsed before.ticker (leaves action before).ticker ∧
    ∀ value, answer action before = .ok value → elapsed + refused value = counted value

theorem Balances.of_ok {value : α} (ran : action before = .ok value after)
    (advances : ManualTicker.Advances period elapsed before.ticker after.ticker)
    (balance : elapsed + refused value = counted value) :
    Balances period counted refused action before := by
  refine ⟨elapsed, ?_, ?_⟩
  · rwa [leaves_of_ok ran]
  · intro value' answered
    simp only [answer, ran] at answered
    cases answered
    exact balance

theorem Balances.of_error {error : DeviceError} (ran : action before = .error error after)
    (advances : ManualTicker.Advances period elapsed before.ticker after.ticker) :
    Balances period counted refused action before := by
  refine ⟨elapsed, ?_, ?_⟩
  · rwa [leaves_of_error ran]
  · intro value answered
    simp only [answer, ran] at answered
    cases answered

/-- Only the ticker of the start counts. -/
theorem Balances.of_eq {action' : Act ρ ManualTicker α} {before' : World ρ ManualTicker}
    (balances : Balances period counted refused action before)
    (same : action' before' = action before) (ticker : before'.ticker = before.ticker) :
    Balances period counted refused action' before' := by
  obtain ⟨elapsed, advances, balance⟩ := balances
  refine ⟨elapsed, ?_, ?_⟩
  · rwa [ticker, leaves_of_eq same]
  · intro value answered
    simp only [answer, same] at answered
    exact balance value answered

/-- Calls and reports do not ask the ticker, so they leave the books as they are if the value
that they give counts as before. -/
theorem Balances.followed_by [Robot ρ] {counted' refused' : β → Nat}
    {next : α → Act ρ ManualTicker β} {score : α → Score}
    (balances : Balances period counted refused action before)
    (follows : ∀ value, (next value).Follows (score value) fun given =>
      counted' given = counted value ∧ refused' given = refused value) :
    Balances period counted' refused' (action >>= next) before := by
  obtain ⟨elapsed, advances, balance⟩ := balances
  cases ran : action before with
  | error error between =>
      rw [leaves_of_error ran] at advances
      exact .of_error (bind_of_error ran) advances
  | ok value between =>
      have answered : answer action before = .ok value := by simp only [answer, ran]
      rw [leaves_of_ok ran] at advances
      cases closed : next value between with
      | error error after =>
          rw [← ((follows value).of_error closed).2.ticker] at advances
          exact .of_error ((bind_of_ok ran).trans closed) advances
      | ok given after =>
          obtain ⟨-, carries, counts, refuses⟩ := (follows value).of_ok closed
          rw [← carries.ticker] at advances
          refine .of_ok ((bind_of_ok ran).trans closed) advances ?_
          rw [counts, refuses]
          exact balance value answered

end Balances

end Act

end Rover
