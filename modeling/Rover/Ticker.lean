/-!
# Tickers

Sampling loops pace themselves through a ticker, which takes one period at a time and can be
cancelled. Durations are whole nanoseconds.
-/

namespace Rover

/-- How a tick ended: after its full period, or cancelled before. -/
inductive Tick where
  | elapsed
  | cancelled
  deriving DecidableEq, Repr

/-- How a ticker answers a request for one period. -/
structure Ticked (τ : Type) where
  tick : Tick
  ticker : τ
  /-- The nanoseconds that the tick really took. -/
  pause : Nat := 0

/-- The states `τ` of a ticker answer requests for one period. The present time matters to a
ticker with a deadline. -/
class Ticker (τ : Type) where
  tick : (period now : Nat) → τ → Ticked τ

/-- Nanoseconds of one second. -/
def oneSecond : Nat := 1000000000

/-- Nanoseconds of one millisecond. -/
def oneMillisecond : Nat := 1000000

/-- A ticker that takes no time and keeps every period that elapsed. -/
structure ManualTicker where
  periods : Array Nat := #[]
  /-- How many ticks may elapse. -/
  limit : Option Nat := none
  /-- Whether the run is cancelled, if the ticker looks at that. -/
  token : Option Bool := none
  deriving DecidableEq, Inhabited

namespace ManualTicker

/-- How many ticks have elapsed. -/
def ticks (ticker : ManualTicker) : Nat := ticker.periods.size

/-- The sum of all elapsed periods. -/
def total (ticker : ManualTicker) : Nat := ticker.periods.foldl (· + ·) 0

/-- Whether the next tick is cancelled. -/
def isCancelled (ticker : ManualTicker) : Bool :=
  ticker.token = some true || ticker.limit.any (· ≤ ticker.ticks)

@[simp] theorem total_push (ticker : ManualTicker) (period : Nat) :
    total { ticker with periods := ticker.periods.push period } = ticker.total + period := by
  simp [total]

/-- Lets one period elapse unless cancelled. -/
def tick (period : Nat) (ticker : ManualTicker) : Ticked ManualTicker :=
  if ticker.isCancelled then { tick := .cancelled, ticker }
  else { tick := .elapsed, ticker := { ticker with periods := ticker.periods.push period } }

/-- Tells the ticker whether the run is cancelled. A ticker that does not look at that is not
changed. -/
def observe (cancelled : Bool) (ticker : ManualTicker) : ManualTicker :=
  { ticker with token := ticker.token.map fun _ => cancelled }

instance : Ticker ManualTicker := ⟨fun period _ ticker => ticker.tick period⟩

end ManualTicker

/-- A ticker that sleeps in real time, in short slices between which it looks for a
cancellation. -/
structure SleepTicker where
  cancelled : Bool := false
  /-- The time from which on every tick is cancelled. -/
  deadline : Option Nat := none
  deriving DecidableEq, Inhabited

namespace SleepTicker

/-- The longest sleep without a look for a cancellation. -/
def slice : Nat := 50 * oneMillisecond

/-- Sleeps through a period. The deadline is looked at before the first slice and after every
one, so a deadline within the period ends the tick after the slice that reaches it. -/
def tick (period now : Nat) (ticker : SleepTicker) : Ticked SleepTicker :=
  if ticker.cancelled then { tick := .cancelled, ticker }
  else match ticker.deadline with
    | none => { tick := .elapsed, ticker, pause := period }
    | some deadline =>
      if now + period < deadline then { tick := .elapsed, ticker, pause := period }
      else
        let slices := (deadline - now + slice - 1) / slice
        { tick := .cancelled, ticker, pause := min (slices * slice) period }

instance : Ticker SleepTicker := ⟨tick⟩

end SleepTicker

/-- A ticker of either kind. -/
inductive Pacer where
  | manual (ticker : ManualTicker)
  | sleeping (ticker : SleepTicker)
  deriving DecidableEq

namespace Pacer

instance : Inhabited Pacer := ⟨.manual {}⟩

/-- Asks the ticker for one period. -/
def tick (period now : Nat) : Pacer → Ticked Pacer
  | .manual ticker =>
    match ManualTicker.tick period ticker with
    | ⟨tick, ticker, pause⟩ => ⟨tick, .manual ticker, pause⟩
  | .sleeping ticker =>
    match SleepTicker.tick period now ticker with
    | ⟨tick, ticker, pause⟩ => ⟨tick, .sleeping ticker, pause⟩

/-- Tells the ticker whether the run is cancelled. -/
def observe (cancelled : Bool) : Pacer → Pacer
  | .manual ticker => .manual (ticker.observe cancelled)
  | .sleeping ticker => .sleeping { ticker with cancelled }

instance : Ticker Pacer := ⟨tick⟩

end Pacer

end Rover
