import Rover.Proofs.Monitor.Ticks
import Rover.Proofs.Recording.Course
import Rover.Proofs.Session.Request

/-!
# The ticks of a shared ticker

Monitors and recordings take turns on one ticker, whose limit counts the periods of all of them.
Between two turns its token may be cancelled or reset. The two kinds of loop count a refused tick
differently, so the books of the ticker are kept turn by turn, by how each one ended.
-/

namespace Rover

/-- What an operator can ask for that the ticker paces. -/
inductive Job where
  | monitorLight (sensor : LightSensor) (settings : MonitorSettings)
  | monitorTemperature (settings : MonitorSettings)
  | recordTemperature (count : UInt32) (period : Nat)

/-- What a job gives if it comes to its end. -/
inductive Product where
  | watched (report : MonitorReport)
  | recorded (series : Series)
  deriving DecidableEq

/-- The seconds that a monitor reports, or the samples of a recording. -/
def Product.counted : Product → Nat
  | .watched report => report.elapsedSeconds
  | .recorded series => series.samples.size

/-- The books of an action on the world are those of the operation that it makes up. -/
theorem Operation.balances_act {ρ α β : Type} {period : Nat} {action : Act ρ ManualTicker α}
    (desk : Desk ρ ManualTicker) (make : α → β) (counted refused : β → Nat)
    (balances : action.Balances period (counted ∘ make) (refused ∘ make) desk.world) :
    ∃ elapsed,
      ManualTicker.Advances period elapsed desk.world.ticker
        (Act.leaves (make <$> act action) desk).world.ticker ∧
      ∀ product, Act.answer (make <$> act action) desk = .ok product →
        elapsed + refused product = counted product := by
  obtain ⟨elapsed, advances, balance⟩ := balances
  refine ⟨elapsed, ?_⟩
  rw [map_eq_pure_bind]
  cases ran : action desk.world with
  | error error after =>
      have failed : (act action >>= fun value => pure (make value)) desk =
          .error (.device error) ⟨desk.session, after⟩ := Act.bind_of_error (act_of_error ran)
      rw [Act.leaves_of_error ran] at advances
      rw [Act.leaves_of_error failed, Act.answer, failed]
      refine ⟨advances, fun product same => ?_⟩
      cases same
  | ok value after =>
      have made : (act action >>= fun value => pure (make value)) desk =
          .ok (make value) ⟨desk.session, after⟩ := Act.bind_of_ok (act_of_ok ran)
      have balanced := balance value (by simp only [Act.answer, ran])
      rw [Act.leaves_of_ok ran] at advances
      rw [Act.leaves_of_ok made, Act.answer, made]
      refine ⟨advances, fun product same => ?_⟩
      cases same
      exact balanced

namespace Job

variable {ρ : Type} [Robot ρ]

/-- The period of its ticks. -/
def period : Job → Nat
  | .monitorLight .. | .monitorTemperature _ => oneSecond
  | .recordTemperature _ period => period

/-- Does the job for a session. -/
def run : Job → Operation ρ ManualTicker Product
  | .monitorLight sensor settings => Product.watched <$> Session.monitorLight sensor settings
  | .monitorTemperature settings => Product.watched <$> Session.monitorTemperature settings
  | .recordTemperature count period => Product.recorded <$> Session.recordTemperature count period

/-- The answers of the ticker to the first samples, of which each is followed by one tick. -/
def ticks : Job → (before : World ρ ManualTicker) → (count : Nat) → List Tick
  | .monitorLight sensor settings => Monitor.ticks (.light sensor) settings
  | .monitorTemperature settings => Monitor.ticks .temperature settings
  | .recordTemperature count period => Recording.ticks period count.toNat

/-- How many of the seconds or samples of a product no period elapsed for. -/
def uncounted (job : Job) (before : World ρ ManualTicker) : Product → Nat
  | .watched report =>
    if report.status = .triggered ∧
      (job.ticks before report.samples.size).getLast? = some .cancelled then 1 else 0
  | .recorded series =>
    if (job.ticks before series.samples.size).getLast? = some .cancelled then 1 else 0

/-- Every job brings the ticker on by full periods of its own. -/
theorem exists_advances (job : Job) (desk : Desk ρ ManualTicker) :
    ∃ elapsed,
      ManualTicker.Advances job.period elapsed desk.world.ticker
        (Act.leaves job.run desk).world.ticker ∧
      ∀ product, Act.answer job.run desk = .ok product →
        elapsed + job.uncounted desk.world product = product.counted := by
  cases job with
  | monitorLight sensor settings =>
      exact Operation.balances_act desk Product.watched _
        (uncounted (.monitorLight sensor settings) _)
        (Monitor.balances_watch desk.session.alarmTone settings (.light sensor) desk.world)
  | monitorTemperature settings =>
      exact Operation.balances_act desk Product.watched _
        (uncounted (.monitorTemperature settings) _)
        (Monitor.balances_watch desk.session.alarmTone settings .temperature desk.world)
  | recordTemperature count period =>
      exact Operation.balances_act desk Product.recorded _
        (uncounted (.recordTemperature count period) _)
        (Recording.balances_withTicker period (.ofWord count) desk.world)

end Job

/-- A job and where it is done, but for the ticker. -/
structure Turn (ρ : Type) where
  session : Session
  robot : ρ
  journal : Array Record := #[]
  clock : Nat := 0
  /-- Whether the token is cancelled from its start on. -/
  cancelled : Bool := false
  job : Job

namespace Turn

variable {ρ : Type} [Robot ρ]

/-- The desk at the start. -/
def desk (turn : Turn ρ) (ticker : ManualTicker) : Desk ρ ManualTicker where
  session := turn.session
  world := ⟨turn.robot, ticker.observe turn.cancelled, turn.journal, turn.clock⟩

/-- What the turn gives. -/
def answer (turn : Turn ρ) (ticker : ManualTicker) : Except Error Product :=
  Act.answer turn.job.run (turn.desk ticker)

/-- The ticker that the turn leaves. -/
def leaves (turn : Turn ρ) (ticker : ManualTicker) : ManualTicker :=
  (Act.leaves turn.job.run (turn.desk ticker)).world.ticker

/-- The answer of the ticker to the last of so many samples. -/
def lastTick? (turn : Turn ρ) (ticker : ManualTicker) (count : Nat) : Option Tick :=
  (turn.job.ticks (turn.desk ticker).world count).getLast?

/-- The ticker that turns in order leave. -/
def leavesAll (turns : List (Turn ρ)) (ticker : ManualTicker) : ManualTicker :=
  turns.foldl (fun ticker turn => turn.leaves ticker) ticker

/-- The periods that elapse during turns in order. -/
def periodsOf : List (Turn ρ) → ManualTicker → List Nat
  | [], _ => []
  | turn :: later, ticker =>
    List.replicate ((turn.leaves ticker).ticks - ticker.ticks) turn.job.period ++
      periodsOf later (turn.leaves ticker)

/-! ## One turn -/

theorem exists_advances (turn : Turn ρ) (ticker : ManualTicker) :
    ∃ elapsed, ManualTicker.Advances turn.job.period elapsed (ticker.observe turn.cancelled)
      (turn.leaves ticker) := by
  obtain ⟨elapsed, advances, -⟩ := turn.job.exists_advances (turn.desk ticker)
  exact ⟨elapsed, advances⟩

theorem limit_leaves (turn : Turn ρ) (ticker : ManualTicker) :
    (turn.leaves ticker).limit = ticker.limit := by
  obtain ⟨elapsed, advances⟩ := turn.exists_advances ticker
  exact advances.limit

/-- A ticker keeps looking at the token, or keeps not looking at it. -/
theorem isSome_token_leaves (turn : Turn ρ) (ticker : ManualTicker) :
    (turn.leaves ticker).token.isSome = ticker.token.isSome := by
  obtain ⟨elapsed, advances⟩ := turn.exists_advances ticker
  rw [advances.token]
  exact Option.isSome_map

/-- A turn that starts with a cancelled token lets no period elapse. -/
theorem ticks_leaves_of_cancelled {turn : Turn ρ} {ticker : ManualTicker}
    (looks : ticker.token.isSome) (cancelled : turn.cancelled = true) :
    (turn.leaves ticker).ticks = ticker.ticks := by
  obtain ⟨elapsed, advances⟩ := turn.exists_advances ticker
  obtain ⟨token, tokens⟩ := Option.isSome_iff_exists.mp looks
  have stopped : (ticker.observe turn.cancelled).token = some true := by
    simp only [ManualTicker.observe, tokens, cancelled, Option.map_some]
  rw [advances.ticks, advances.running stopped]
  rfl

theorem ticks_leaves_le {turn : Turn ρ} {ticker : ManualTicker} {most : Nat}
    (limited : ticker.limit = some most) (within : ticker.ticks ≤ most) :
    (turn.leaves ticker).ticks ≤ most := by
  obtain ⟨elapsed, advances⟩ := turn.exists_advances ticker
  have left := advances.within most limited
  have same : (ticker.observe turn.cancelled).ticks = ticker.ticks := rfl
  rw [advances.ticks]
  omega

theorem le_ticks_leaves (turn : Turn ρ) (ticker : ManualTicker) :
    ticker.ticks ≤ (turn.leaves ticker).ticks := by
  obtain ⟨elapsed, advances⟩ := turn.exists_advances ticker
  rw [advances.ticks]
  exact Nat.le_add_right _ elapsed

/-- Once the limit is reached no turn lets a further period elapse. -/
theorem ticks_leaves_of_full {turn : Turn ρ} {ticker : ManualTicker} {most : Nat}
    (limited : ticker.limit = some most) (full : ticker.ticks = most) :
    (turn.leaves ticker).ticks = most := by
  apply Nat.le_antisymm (ticks_leaves_le limited (Nat.le_of_eq full))
  rw [← full]
  exact turn.le_ticks_leaves ticker

theorem total_leaves (turn : Turn ρ) (ticker : ManualTicker) :
    (turn.leaves ticker).total =
      ticker.total + ((turn.leaves ticker).ticks - ticker.ticks) * turn.job.period := by
  obtain ⟨elapsed, advances⟩ := turn.exists_advances ticker
  have gained : (turn.leaves ticker).ticks = ticker.ticks + elapsed := advances.ticks
  rw [gained, Nat.add_sub_cancel_left]
  exact advances.total

/-- A turn that comes to its end brings the ticker on by what its product counts, but for what no
period elapsed for. -/
theorem ticks_of_answer {turn : Turn ρ} {ticker : ManualTicker} {product : Product}
    (answered : turn.answer ticker = .ok product) :
    (turn.leaves ticker).ticks + turn.job.uncounted (turn.desk ticker).world product =
      ticker.ticks + product.counted := by
  obtain ⟨elapsed, advances, balance⟩ := turn.job.exists_advances (turn.desk ticker)
  have balanced := balance product answered
  have gained : (turn.leaves ticker).ticks = ticker.ticks + elapsed := advances.ticks
  omega

/-! ## Turns in order -/

@[simp] theorem leavesAll_nil (ticker : ManualTicker) :
    leavesAll ([] : List (Turn ρ)) ticker = ticker := rfl

@[simp] theorem leavesAll_cons (turn : Turn ρ) (later : List (Turn ρ)) (ticker : ManualTicker) :
    leavesAll (turn :: later) ticker = leavesAll later (turn.leaves ticker) := rfl

theorem limit_leavesAll (turns : List (Turn ρ)) (ticker : ManualTicker) :
    (leavesAll turns ticker).limit = ticker.limit := by
  induction turns generalizing ticker with
  | nil => rfl
  | cons turn later ih => rw [leavesAll_cons, ih, limit_leaves]

theorem isSome_token_leavesAll (turns : List (Turn ρ)) (ticker : ManualTicker) :
    (leavesAll turns ticker).token.isSome = ticker.token.isSome := by
  induction turns generalizing ticker with
  | nil => rfl
  | cons turn later ih => rw [leavesAll_cons, ih, isSome_token_leaves]

theorem ticks_leavesAll_le (turns : List (Turn ρ)) {ticker : ManualTicker} {most : Nat}
    (limited : ticker.limit = some most) (within : ticker.ticks ≤ most) :
    (leavesAll turns ticker).ticks ≤ most := by
  induction turns generalizing ticker with
  | nil => exact within
  | cons turn later ih =>
      exact ih ((turn.limit_leaves ticker).trans limited) (ticks_leaves_le limited within)

theorem ticks_leavesAll_of_full (turns : List (Turn ρ)) {ticker : ManualTicker} {most : Nat}
    (limited : ticker.limit = some most) (full : ticker.ticks = most) :
    (leavesAll turns ticker).ticks = most := by
  induction turns generalizing ticker with
  | nil => exact full
  | cons turn later ih =>
      exact ih ((turn.limit_leaves ticker).trans limited) (ticks_leaves_of_full limited full)

theorem total_leavesAll (turns : List (Turn ρ)) (ticker : ManualTicker) :
    (leavesAll turns ticker).total = ticker.total + (periodsOf turns ticker).sum := by
  induction turns generalizing ticker with
  | nil => rfl
  | cons turn later ih =>
      rw [leavesAll_cons, ih, total_leaves, periodsOf, List.sum_append, List.sum_replicate_nat,
        Nat.add_assoc]

/-- The books of a shared ticker balance after turns in any order, with its token cancelled or
reset between them. The limit holds for all of them together, and once it is reached it stays so.
A turn that starts cancelled lets no period elapse. A monitor brings the ticker on by the seconds
that it reports, and a recording by its samples, but for the one refused tick that each counts. The
total is made up of the periods of all turns. -/
theorem ticks_balance (fresh : ManualTicker) (turns : List (Turn ρ)) :
    let ticker := leavesAll turns fresh
    (∀ most, fresh.limit = some most → fresh.ticks ≤ most →
      ticker.ticks ≤ most ∧
        (ticker.ticks = most → ∀ later : List (Turn ρ), (leavesAll later ticker).ticks = most)) ∧
    ticker.total = fresh.total + (periodsOf turns fresh).sum ∧
    ∀ turn : Turn ρ,
      let after := turn.leaves ticker
      (fresh.token.isSome → turn.cancelled = true → after.ticks = ticker.ticks) ∧
      (∀ report, turn.answer ticker = .ok (.watched report) →
        after.ticks +
            (if report.status = .triggered ∧
              turn.lastTick? ticker report.samples.size = some .cancelled then 1 else 0) =
          ticker.ticks + report.elapsedSeconds) ∧
      (∀ series, turn.answer ticker = .ok (.recorded series) →
        after.ticks +
            (if turn.lastTick? ticker series.samples.size = some .cancelled then 1 else 0) =
          ticker.ticks + series.samples.size) := by
  intro ticker
  refine ⟨?limit, total_leavesAll turns fresh, ?turn⟩
  case limit =>
    intro most limited within
    have limited' : ticker.limit = some most := (limit_leavesAll turns fresh).trans limited
    exact ⟨ticks_leavesAll_le turns limited within,
      fun full later => ticks_leavesAll_of_full later limited' full⟩
  case turn =>
    intro turn after
    refine ⟨?_, fun _ => ticks_of_answer, fun _ => ticks_of_answer⟩
    intro looks cancelled
    rw [← isSome_token_leavesAll turns fresh] at looks
    exact ticks_leaves_of_cancelled looks cancelled

/-- One sample is recorded, and then a brighter light is met in a second whose tick the limit
refuses: the second counts, and the ticker stands still. -/
theorem ticks_balance_refused_crossing :
    let lit : SimulatedRobot := { connected := true, leftLight := ⟨[20, 90], 90⟩ }
    let recorded : Turn SimulatedRobot :=
      { session := .standard, robot := lit, job := .recordTemperature 1 oneSecond }
    let watched : Turn SimulatedRobot :=
      { session := .standard, robot := lit, job := .monitorLight .left ⟨.maximum, 50, 5⟩ }
    let ticker := leavesAll [recorded] { limit := some 2 }
    let report : MonitorReport :=
      ⟨.triggered, 2, #[.light (some 20) none, .light (some 90) none]⟩
    ticker.ticks = 1 ∧ watched.answer ticker = .ok (.watched report) ∧
      watched.lastTick? ticker report.samples.size = some .cancelled ∧
      (watched.leaves ticker).ticks + 1 = ticker.ticks + report.elapsedSeconds := by
  intro lit recorded watched ticker report
  have answered : watched.answer ticker = .ok (.watched report) := by decide +kernel
  have refused : watched.lastTick? ticker report.samples.size = some .cancelled := by
    decide +kernel
  obtain ⟨-, -, balances⟩ := ticks_balance { limit := some 2 } [recorded]
  have balanced := (balances watched).2.1 report answered
  rw [if_pos ⟨rfl, refused⟩] at balanced
  exact ⟨by decide +kernel, answered, refused, balanced⟩

end Turn

end Rover
