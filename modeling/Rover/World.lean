import Rover.Journal
import Rover.Robot
import Rover.Ticker

/-!
# Acting on the world

The world is a robot, a ticker, the journal and the present time. An action changes the world
and then gives a value or fails; the world after a failure is the one that the failure left.
-/

namespace Rover

/-- All that an action can change. -/
structure World (ρ τ : Type) where
  robot : ρ
  ticker : τ
  journal : Array Record := #[]
  /-- The present time in nanoseconds. -/
  clock : Nat := 0

/-- An action on the world, which can fail as calls to the robot do. -/
abbrev Act (ρ τ : Type) : Type → Type := EStateM DeviceError (World ρ τ)

namespace World

variable {ρ τ : Type}

/-- The journal in order. -/
def history (world : World ρ τ) : Journal := world.journal.toList

/-- Adds an entry to the journal. -/
def record (entry : Record) : World ρ τ → World ρ τ
  | ⟨robot, ticker, journal, clock⟩ => ⟨robot, ticker, journal.push entry, clock⟩

/-- Lets time pass. An empty pause leaves no trace. -/
def elapse (nanoseconds : Nat) : World ρ τ → World ρ τ
  | ⟨robot, ticker, journal, clock⟩ =>
    if nanoseconds = 0 then ⟨robot, ticker, journal, clock⟩
    else ⟨robot, ticker, journal.push (.pause nanoseconds), clock + nanoseconds⟩

/-- Adds lines to the journal. -/
def tell (notices : List Notice) (world : World ρ τ) : World ρ τ :=
  notices.foldl (fun world notice => world.record (.notice notice)) world

@[simp] theorem history_record (entry : Record) (world : World ρ τ) :
    (world.record entry).history = world.history ++ [entry] := by
  simp [history, record]

@[simp] theorem history_tell (notices : List Notice) (world : World ρ τ) :
    (world.tell notices).history = world.history ++ notices.map Record.notice := by
  induction notices generalizing world with
  | nil => simp [tell]
  | cons notice rest ih =>
    simp only [tell, List.foldl_cons, List.map_cons] at ih ⊢
    simp [ih]

/-- The entries that a passing of time leaves. -/
def pauseRecords (nanoseconds : Nat) : Journal :=
  if nanoseconds = 0 then [] else [.pause nanoseconds]

@[simp] theorem history_elapse (nanoseconds : Nat) (world : World ρ τ) :
    (world.elapse nanoseconds).history = world.history ++ pauseRecords nanoseconds := by
  cases world with
  | mk robot ticker journal clock =>
    by_cases isZero : nanoseconds = 0 <;> simp [elapse, pauseRecords, history, isZero]

@[simp] theorem robot_record (entry : Record) (world : World ρ τ) :
    (world.record entry).robot = world.robot := rfl

@[simp] theorem robot_tell (notices : List Notice) (world : World ρ τ) :
    (world.tell notices).robot = world.robot := by
  induction notices generalizing world with
  | nil => rfl
  | cons notice rest ih => exact ih (world.record (.notice notice))

@[simp] theorem robot_elapse (nanoseconds : Nat) (world : World ρ τ) :
    (world.elapse nanoseconds).robot = world.robot := by
  cases world with
  | mk robot ticker journal clock =>
    by_cases isZero : nanoseconds = 0 <;> simp [elapse, isZero]

end World

namespace Act

variable {ρ τ : Type}

/-- Adds an event to the journal. -/
def emit (event : Event) : Act ρ τ Unit := modify (World.record (.event event))

/-- Adds a line to the journal. -/
def notice (level : Level) (text : String) : Act ρ τ Unit :=
  modify (World.record (.notice ⟨level, text⟩))

/-- The failure of a result. -/
def failure? {α : Type} : Except DeviceError α → Option DeviceError
  | .ok _ => none
  | .error error => some error

/-- Tries a call. The journal keeps the call and then what the robot tells. -/
def call [Robot ρ] (call : Call) : Act ρ τ call.Reply
  | ⟨robot, ticker, journal, clock⟩ =>
    match Robot.perform call robot with
    | ⟨result, robot, notices, pause⟩ =>
      let world := World.mk robot ticker (journal.push (.call call (failure? result))) clock
      let world := (world.tell notices).elapse pause
      match result with
      | .ok reply => .ok reply world
      | .error error => .error error world

/-- What a call does to the world whatever its result: the robot changes, and the journal gains
the call, what the robot tells, and the time that passed. -/
def afterCall {call : Call} (response : Response ρ call.Reply) (world : World ρ τ) :
    World ρ τ :=
  ((({ world with robot := response.robot }).record
    (.call call (failure? response.result))).tell response.notices).elapse response.pause

theorem call_eq [Robot ρ] (request : Call) (world : World ρ τ) :
    (call request : Act ρ τ request.Reply) world =
      match (Robot.perform request world.robot).result with
      | .ok reply => .ok reply (afterCall (Robot.perform request world.robot) world)
      | .error error => .error error (afterCall (Robot.perform request world.robot) world) := rfl

@[simp] theorem robot_afterCall {call : Call} (response : Response ρ call.Reply)
    (world : World ρ τ) : (afterCall response world).robot = response.robot := by
  simp [afterCall]

@[simp] theorem history_afterCall {call : Call} (response : Response ρ call.Reply)
    (world : World ρ τ) :
    (afterCall response world).history =
      world.history ++ .call call (failure? response.result) ::
        (response.notices.map Record.notice ++ World.pauseRecords response.pause) := by
  have same : ({ world with robot := response.robot } : World ρ τ).history = world.history := rfl
  simp [afterCall, same]

/-- Asks the ticker for one period. -/
def tick [Ticker τ] (period : Nat) : Act ρ τ Tick
  | ⟨robot, ticker, journal, clock⟩ =>
    match Ticker.tick period clock ticker with
    | ⟨tick, ticker, pause⟩ => .ok tick ((World.mk robot ticker journal clock).elapse pause)

/-- Runs an action and gives its result as a value, a failure included. -/
def outcome {α : Type} (action : Act ρ τ α) : Act ρ τ (Except DeviceError α) := fun world =>
  match action world with
  | .ok value world => .ok (.ok value) world
  | .error error world => .ok (.error error) world

/-- Brings the robot to rest: motors stopped, tone off, LED off, in this order up to the first
call that fails. -/
def quiesce [Robot ρ] : Act ρ τ Unit := do
  call (.setMotors 0 0)
  call .noteOff
  call (.setLed .dark)

end Act

end Rover
