import Rover.Proofs.Act

/-!
# Earlier entries of the journal

An action adds to the journal and never looks at it. So what the journal holds beforehand stays in
front of all that the action adds, and makes no difference to anything else.
-/

namespace Rover

variable {ρ τ α β : Type}

namespace World

/-- The world if its journal had begun with earlier entries. -/
def preceded (earlier : Array Record) : World ρ τ → World ρ τ
  | ⟨robot, ticker, journal, clock⟩ => ⟨robot, ticker, earlier ++ journal, clock⟩

/-- The world with an empty journal. -/
def bare (world : World ρ τ) : World ρ τ := { world with journal := #[] }

theorem preceded_bare (world : World ρ τ) : world.bare.preceded world.journal = world := by
  simp only [preceded, bare, Array.append_empty]

theorem preceded_bare_record (world : World ρ τ) (entry : Record) :
    world.bare.preceded (world.journal.push entry) = world.record entry := by
  simp only [preceded, bare, Array.append_empty]
  rfl

variable (earlier : Array Record) (world : World ρ τ)

@[simp] theorem robot_preceded : (world.preceded earlier).robot = world.robot := rfl

@[simp] theorem ticker_preceded : (world.preceded earlier).ticker = world.ticker := rfl

@[simp] theorem history_preceded :
    (world.preceded earlier).history = earlier.toList ++ world.history :=
  Array.toList_append

theorem record_preceded (entry : Record) :
    (world.preceded earlier).record entry = (world.record entry).preceded earlier := by
  simp only [preceded, record, Array.append_push]

theorem tell_preceded (notices : List Notice) :
    (world.preceded earlier).tell notices = (world.tell notices).preceded earlier := by
  induction notices generalizing world with
  | nil => rfl
  | cons notice rest ih =>
      simp only [tell, List.foldl_cons, record_preceded] at ih ⊢
      exact ih (world.record (.notice notice))

theorem elapse_preceded (nanoseconds : Nat) :
    (world.preceded earlier).elapse nanoseconds = (world.elapse nanoseconds).preceded earlier := by
  by_cases isZero : nanoseconds = 0
  · simp only [preceded, elapse, isZero, if_true]
  · simp only [preceded, elapse, isZero, if_false, Array.append_push]

end World

namespace Act

/-- The result if the journal had begun with earlier entries. -/
def resultPreceded (earlier : Array Record) :
    EStateM.Result DeviceError (World ρ τ) α → EStateM.Result DeviceError (World ρ τ) α
  | .ok value after => .ok value (after.preceded earlier)
  | .error error after => .error error (after.preceded earlier)

/-- The action does not look at the journal. -/
def Blind (action : Act ρ τ α) : Prop :=
  ∀ earlier before, action (before.preceded earlier) = resultPreceded earlier (action before)

theorem blind_pure (value : α) : Blind (pure value : Act ρ τ α) := fun _ _ => rfl

theorem blind_emit (event : Event) : Blind (emit event : Act ρ τ Unit) := by
  intro earlier before
  rw [emit_eq, emit_eq, World.record_preceded]
  rfl

theorem blind_notice (level : Level) (text : String) :
    Blind (notice level text : Act ρ τ Unit) := by
  intro earlier before
  rw [notice_eq, notice_eq, World.record_preceded]
  rfl

theorem blind_tick [Ticker τ] (period : Nat) : Blind (tick period : Act ρ τ Tick) := by
  intro earlier before
  rw [tick_eq, tick_eq, resultPreceded, afterTick, afterTick, ← World.elapse_preceded]
  rfl

theorem afterCall_preceded {call : Call} (response : Response ρ call.Reply)
    (earlier : Array Record) (before : World ρ τ) :
    afterCall response (before.preceded earlier) =
      (afterCall response before).preceded earlier := by
  rw [afterCall, afterCall, ← World.elapse_preceded, ← World.tell_preceded,
    ← World.record_preceded]
  rfl

theorem blind_call [Robot ρ] (request : Call) :
    Blind (call request : Act ρ τ request.Reply) := by
  intro earlier before
  rw [call_eq, call_eq, afterCall_preceded, World.robot_preceded]
  cases (Robot.perform request before.robot).result <;> rfl

theorem blind_bind {action : Act ρ τ α} {next : α → Act ρ τ β} (blind : Blind action)
    (continues : ∀ value, Blind (next value)) : Blind (action >>= next) := by
  intro earlier before
  have same := blind earlier before
  cases ran : action before with
  | ok value between =>
      rw [ran] at same
      rw [bind_of_ok ran, bind_of_ok same]
      exact continues value earlier between
  | error error between =>
      rw [ran] at same
      rw [bind_of_error ran, bind_of_error same]
      rfl

namespace Blind

variable {action : Act ρ τ α}

theorem answer_preceded (blind : Blind action) (earlier : Array Record) (before : World ρ τ) :
    answer action (before.preceded earlier) = answer action before := by
  simp only [answer, blind earlier before]
  cases action before <;> rfl

theorem leaves_preceded (blind : Blind action) (earlier : Array Record) (before : World ρ τ) :
    leaves action (before.preceded earlier) = (leaves action before).preceded earlier := by
  simp only [leaves, blind earlier before]
  cases action before <;> rfl

end Blind

end Act

end Rover
