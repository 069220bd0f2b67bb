import Rover.Proofs.Journal
import Rover.Session

/-!
# Equations of actions

How an action continues after a step that succeeded or failed, for actions on the world and
for operations of a session alike, and what the primitive actions do.
-/

namespace Rover

namespace Act

section Bind

variable {ε σ α β : Type} {action : EStateM ε σ α} {next : α → EStateM ε σ β} {before after : σ}

/-- After a success the rest goes on from the value and the state that it left. -/
theorem bind_of_ok {value : α} (ran : action before = .ok value after) :
    (action >>= next) before = next value after := by
  change EStateM.bind action next before = _
  simp only [EStateM.bind, ran]

/-- After a failure there is no rest. -/
theorem bind_of_error {error : ε} (ran : action before = .error error after) :
    (action >>= next) before = .error error after := by
  change EStateM.bind action next before = _
  simp only [EStateM.bind, ran]

/-- The state that an action leaves, whether it succeeds or fails. -/
def leaves (action : EStateM ε σ α) (before : σ) : σ :=
  match action before with
  | .ok _ after => after
  | .error _ after => after

/-- What an action gives. -/
def answer (action : EStateM ε σ α) (before : σ) : Except ε α :=
  match action before with
  | .ok value _ => .ok value
  | .error error _ => .error error

theorem leaves_of_ok {value : α} (ran : action before = .ok value after) :
    leaves action before = after := by
  simp only [leaves, ran]

theorem leaves_of_error {error : ε} (ran : action before = .error error after) :
    leaves action before = after := by
  simp only [leaves, ran]

theorem leaves_of_eq {action' : EStateM ε σ α} {before' : σ}
    (same : action before = action' before') : leaves action before = leaves action' before' := by
  simp only [leaves, same]

theorem leaves_bind_of_ok {value : α} (ran : action before = .ok value after) :
    leaves (action >>= next) before = leaves (next value) after :=
  leaves_of_eq (bind_of_ok ran)

theorem leaves_bind_of_error {error : ε} (ran : action before = .error error after) :
    leaves (action >>= next) before = after :=
  leaves_of_error (bind_of_error ran)

theorem leaves_bind_pure (value : β) :
    leaves (action >>= fun _ => pure value) before = leaves action before := by
  cases ran : action before with
  | ok _ after =>
      rw [leaves_bind_of_ok ran, leaves_of_ok ran]
      rfl
  | error error after => rw [leaves_bind_of_error ran, leaves_of_error ran]

/-- An answer and a state left make up a result. -/
theorem eq_ok_of_answer {value : α} (answered : answer action before = .ok value) :
    action before = .ok value (leaves action before) := by
  simp only [answer] at answered
  simp only [leaves]
  split at answered
  next ran => rw [ran, Except.ok.inj answered]
  next => cases answered

theorem eq_error_of_answer {error : ε} (answered : answer action before = .error error) :
    action before = .error error (leaves action before) := by
  simp only [answer] at answered
  simp only [leaves]
  split at answered
  next => cases answered
  next ran => rw [ran, Except.error.inj answered]

end Bind

variable {ρ τ α : Type}

theorem emit_eq (event : Event) (world : World ρ τ) :
    emit event world = .ok () (world.record (.event event)) := rfl

theorem notice_eq (level : Level) (text : String) (world : World ρ τ) :
    notice level text world = .ok () (world.record (.notice ⟨level, text⟩)) := rfl

theorem call_of_ok [Robot ρ] {request : Call} {world : World ρ τ} {reply : request.Reply}
    (accepted : (Robot.perform request world.robot).result = .ok reply) :
    call request world = .ok reply (afterCall (Robot.perform request world.robot) world) := by
  rw [call_eq, accepted]

theorem call_of_error [Robot ρ] {request : Call} {world : World ρ τ} {error : DeviceError}
    (refused : (Robot.perform request world.robot).result = .error error) :
    call request world = .error error (afterCall (Robot.perform request world.robot) world) := by
  rw [call_eq, refused]

/-- What a request for one period does to the world. -/
def afterTick (ticked : Ticked τ) (world : World ρ τ) : World ρ τ :=
  ({ world with ticker := ticked.ticker }).elapse ticked.pause

theorem tick_eq [Ticker τ] (period : Nat) (world : World ρ τ) :
    tick period world =
      .ok (Ticker.tick period world.clock world.ticker).tick
        (afterTick (Ticker.tick period world.clock world.ticker) world) := rfl

theorem outcome_of_ok {action : Act ρ τ α} {before after : World ρ τ} {value : α}
    (ran : action before = .ok value after) :
    outcome action before = .ok (.ok value) after := by
  simp only [outcome, ran]

theorem outcome_of_error {action : Act ρ τ α} {before after : World ρ τ} {error : DeviceError}
    (ran : action before = .error error after) :
    outcome action before = .ok (.error error) after := by
  simp only [outcome, ran]

end Act

namespace World

variable {ρ τ : Type}

@[simp] theorem ticker_record (entry : Record) (world : World ρ τ) :
    (world.record entry).ticker = world.ticker := rfl

@[simp] theorem ticker_tell (notices : List Notice) (world : World ρ τ) :
    (world.tell notices).ticker = world.ticker := by
  induction notices generalizing world with
  | nil => rfl
  | cons notice rest ih => exact ih (world.record (.notice notice))

@[simp] theorem ticker_elapse (nanoseconds : Nat) (world : World ρ τ) :
    (world.elapse nanoseconds).ticker = world.ticker := by
  cases world with
  | mk robot ticker journal clock =>
      by_cases isZero : nanoseconds = 0 <;> simp [elapse, isZero]

end World

namespace Act

variable {ρ τ : Type}

@[simp] theorem ticker_afterCall {call : Call} (response : Response ρ call.Reply)
    (world : World ρ τ) : (afterCall response world).ticker = world.ticker := by
  simp [afterCall]

/-- Of what a call leaves in the journal only the call itself is a deed. -/
@[simp] theorem deeds_afterCall {call : Call} (response : Response ρ call.Reply)
    (world : World ρ τ) :
    (afterCall response world).history.deeds =
      world.history.deeds ++ [.call call (failure? response.result)] := by
  simp

@[simp] theorem robot_afterTick (ticked : Ticked τ) (world : World ρ τ) :
    (afterTick ticked world).robot = world.robot := by
  simp [afterTick]

@[simp] theorem ticker_afterTick (ticked : Ticked τ) (world : World ρ τ) :
    (afterTick ticked world).ticker = ticked.ticker := by
  simp [afterTick]

@[simp] theorem history_afterTick (ticked : Ticked τ) (world : World ρ τ) :
    (afterTick ticked world).history = world.history ++ World.pauseRecords ticked.pause :=
  World.history_elapse _ _

end Act

end Rover
