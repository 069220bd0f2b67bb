import Rover.Proofs.Score

/-!
# Exchanges with the robot

Whatever an action does, its deeds say how the robot got from one state to the next: it answered
the calls in order, and nothing else changed it. Which calls an action tries at all is therefore
enough for everything that depends on the robot alone.
-/

namespace Rover

variable {ρ τ α β : Type} [Robot ρ]

/-- The robot once it has answered calls. -/
def Robot.after (robot : ρ) (calls : List Call) : ρ :=
  calls.foldl (fun robot call => (Robot.perform call robot).robot) robot

theorem Robot.after_concat (robot : ρ) (calls : List Call) (call : Call) :
    Robot.after robot (calls ++ [call]) = (Robot.perform call (Robot.after robot calls)).robot := by
  rw [after, List.foldl_append, ← after]
  rfl

/-- The robot goes from one state to another by answering the calls among the deeds. -/
inductive Exchange : ρ → Journal → ρ → Prop
  | done (robot : ρ) : Exchange robot [] robot
  | event (event : Event) {robot last : ρ} {rest : Journal} (later : Exchange robot rest last) :
      Exchange robot (.event event :: rest) last
  | call (call : Call) {robot last : ρ} {rest : Journal}
      (later : Exchange (Robot.perform call robot).robot rest last) :
      Exchange robot (.call call (Act.failure? (Robot.perform call robot).result) :: rest) last

namespace Exchange

theorem append {first second : Journal} {start middle last : ρ}
    (early : Exchange start first middle) (late : Exchange middle second last) :
    Exchange start (first ++ second) last := by
  induction early with
  | done => exact late
  | event happened _ ih => exact .event happened (ih late)
  | call tried _ ih => exact .call tried (ih late)

theorem events (happened : List Event) (robot : ρ) :
    Exchange robot (happened.map Record.event) robot := by
  induction happened with
  | nil => exact .done robot
  | cons event rest ih => exact .event event ih

theorem call_of_ok {call : Call} {robot last : ρ} {reply : call.Reply} {rest : Journal}
    (accepted : (Robot.perform call robot).result = .ok reply)
    (later : Exchange (Robot.perform call robot).robot rest last) :
    Exchange robot (.call call none :: rest) last := by
  have whole := Exchange.call call later
  rwa [accepted] at whole

theorem call_of_error {call : Call} {robot : ρ} {error : DeviceError}
    (refused : (Robot.perform call robot).result = .error error) :
    Exchange robot [.call call (some error)] (Robot.perform call robot).robot := by
  have whole := Exchange.call call (.done (Robot.perform call robot).robot)
  rwa [refused] at whole

/-- Playing a score is such an exchange. -/
theorem play (score : Score) (robot : ρ) :
    Exchange robot (score.play robot).records (score.play robot).robot := by
  induction score generalizing robot with
  | nil => exact .done robot
  | cons cue rest ih =>
      cases cue with
      | report event => exact .event event (ih robot)
      | call call reports =>
          cases outcome : (Robot.perform call robot).result with
          | ok reply =>
              rw [Score.play_call_of_ok outcome]
              exact call_of_ok outcome ((events (reports reply) _).append (ih _))
          | error error =>
              rw [Score.play_call_of_error outcome]
              exact call_of_error outcome

end Exchange

namespace World

/-- One world goes over into another: the journal gains the deeds, and the robot changes by
them. -/
structure Leads (gain : Journal) (before after : World ρ τ) : Prop where
  deeds : after.history.deeds = before.history.deeds ++ gain
  robot : Exchange before.robot gain after.robot

namespace Leads

theorem nowhere (world : World ρ τ) : Leads [] world world :=
  ⟨(List.append_nil _).symm, .done _⟩

theorem trans {first second : Journal} {before between after : World ρ τ}
    (early : Leads first before between) (late : Leads second between after) :
    Leads (first ++ second) before after where
  deeds := by rw [late.deeds, early.deeds, List.append_assoc]
  robot := early.robot.append late.robot

theorem unique {first second : Journal} {before after : World ρ τ}
    (one : Leads first before after) (other : Leads second before after) : first = second :=
  List.append_cancel_left (one.deeds.symm.trans other.deeds)

theorem call (request : Call) (before : World ρ τ) :
    Leads [.call request (Act.failure? (Robot.perform request before.robot).result)] before
      (Act.afterCall (Robot.perform request before.robot) before) where
  deeds := Act.deeds_afterCall _ _
  robot := by
    rw [Act.robot_afterCall]
    exact Exchange.call request (.done _)

theorem call_of_ok {request : Call} {before : World ρ τ} {reply : request.Reply}
    (accepted : (Robot.perform request before.robot).result = .ok reply) :
    Leads [.call request none] before
      (Act.afterCall (Robot.perform request before.robot) before) := by
  have leads := call request before
  rwa [accepted] at leads

theorem call_of_error {request : Call} {before : World ρ τ} {error : DeviceError}
    (refused : (Robot.perform request before.robot).result = .error error) :
    Leads [.call request (some error)] before
      (Act.afterCall (Robot.perform request before.robot) before) := by
  have leads := call request before
  rwa [refused] at leads

theorem event (happened : Event) (before : World ρ τ) :
    Leads [.event happened] before (before.record (.event happened)) where
  deeds := by simp
  robot := .event happened (.done _)

theorem notice (told : Notice) (before : World ρ τ) :
    Leads [] before (before.record (.notice told)) where
  deeds := by simp
  robot := .done _

theorem tick (ticked : Ticked τ) (before : World ρ τ) :
    Leads [] before (Act.afterTick ticked before) where
  deeds := by simp
  robot := by
    rw [Act.robot_afterTick]
    exact .done _

end Leads

end World

theorem Played.Carries.leads {score : Score} {before after : World ρ τ}
    (carries : (score.play before.robot).Carries before after) :
    World.Leads (score.play before.robot).records before after where
  deeds := carries.deeds
  robot := by
    rw [carries.robot]
    exact Exchange.play score before.robot

namespace Act

/-- From every world the action tries allowed calls only, whether it succeeds or fails. -/
def Tries (allowed : Call → Prop) (action : Act ρ τ α) : Prop :=
  ∀ before, ∃ deeds, World.Leads deeds before (leaves action before) ∧
    ∀ call ∈ deeds.calls, allowed call

variable {allowed : Call → Prop}

theorem tries_pure (value : α) : Tries allowed (pure value : Act ρ τ α) := by
  intro before
  exact ⟨[], World.Leads.nowhere before, by simp⟩

theorem tries_throw (error : DeviceError) : Tries allowed (throw error : Act ρ τ α) := by
  intro before
  exact ⟨[], World.Leads.nowhere before, by simp⟩

theorem tries_call {request : Call} (permitted : allowed request) :
    Tries allowed (call request : Act ρ τ request.Reply) := by
  intro before
  have left : leaves (call request : Act ρ τ request.Reply) before =
      afterCall (Robot.perform request before.robot) before := by
    rw [leaves, call_eq]
    cases (Robot.perform request before.robot).result <;> rfl
  rw [left]
  exact ⟨_, World.Leads.call request before, by simpa using permitted⟩

theorem tries_emit (event : Event) : Tries allowed (emit event : Act ρ τ Unit) := by
  intro before
  exact ⟨_, World.Leads.event event before, by simp⟩

theorem tries_notice (level : Level) (text : String) :
    Tries allowed (notice level text : Act ρ τ Unit) := by
  intro before
  exact ⟨[], World.Leads.notice _ before, by simp⟩

theorem tries_tick [Ticker τ] (period : Nat) : Tries allowed (tick period : Act ρ τ Tick) := by
  intro before
  exact ⟨[], World.Leads.tick _ before, by simp⟩

theorem tries_bind {action : Act ρ τ α} {next : α → Act ρ τ β} (tries : Tries allowed action)
    (continues : ∀ value, Tries allowed (next value)) : Tries allowed (action >>= next) := by
  intro before
  rcases tries before with ⟨deeds, leads, permitted⟩
  cases ran : action before with
  | error error between =>
      rw [leaves_of_error ran] at leads
      rw [leaves_bind_of_error ran]
      exact ⟨deeds, leads, permitted⟩
  | ok value between =>
      rw [leaves_of_ok ran] at leads
      rcases continues value between with ⟨further, onward, permitted'⟩
      rw [leaves_bind_of_ok ran]
      refine ⟨deeds ++ further, leads.trans onward, ?_⟩
      rw [Journal.calls_append]
      exact List.forall_mem_append.mpr ⟨permitted, permitted'⟩

omit [Robot ρ] in
/-- To look at the outcome of an action is to run it. -/
theorem leaves_outcome (action : Act ρ τ α) (before : World ρ τ) :
    leaves (outcome action) before = leaves action before := by
  simp only [leaves, outcome]
  cases action before <;> rfl

theorem tries_outcome {action : Act ρ τ α} (tries : Tries allowed action) :
    Tries allowed (outcome action) := by
  intro before
  rw [leaves_outcome]
  exact tries before

/-- An action that follows a score tries calls of the score only. -/
theorem Follows.tries {action : Act ρ τ α} {score : Score} {gives : α → Prop}
    (follows : action.Follows score gives) (permitted : ∀ call ∈ score.calls, allowed call) :
    Tries allowed action := by
  intro before
  refine ⟨_, (follows.carries before).leads, ?_⟩
  intro call inside
  exact permitted call (score.calls_play_subset before.robot inside)

end Act

end Rover
