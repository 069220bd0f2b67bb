import Rover.Proofs.Session.Calls

/-!
# Requests to connect

A session counts as connected only once the robot that was reached has shown it. If the LED or
the hold fails in between, the link is open and the session does not know of it.
-/

namespace Rover

namespace Journal

/-- An attempt to connect reached the robot. -/
def Reached (journal : Journal) : Prop :=
  ∃ attempt, .connectAttempt attempt true ∈ journal.events

/-- Showing that the robot was reached failed: the blue LED, or a hold. -/
def Unshown (journal : Journal) : Prop :=
  ∃ call error, (call, some error) ∈ journal.attempts ∧
    (call = .setLed ⟨0, 0, 255⟩ ∨ ∃ millis, call = .wait millis)

theorem reached_append {first second : Journal} :
    Reached (first ++ second) ↔ Reached first ∨ Reached second := by
  simp only [Reached, events_append, List.mem_append, exists_or]

theorem unshown_append {first second : Journal} :
    Unshown (first ++ second) ↔ Unshown first ∨ Unshown second := by
  simp only [Unshown, attempts_append, List.mem_append, or_and_right, exists_or]

end Journal

theorem Tried.not_failing {script : List Call} {attempts : List (Call × Option DeviceError)}
    (tried : Tried script attempts none) {call : Call} {error : DeviceError} :
    (call, some error) ∉ attempts := by
  rw [tried.eq_of_none]
  simp

/-! ## The far end of the link -/

namespace SimulatedRobot

theorem connected_accept {call : Call} (keeps : call.KeepsLink) (robot : SimulatedRobot) :
    (robot.accept call).connected = robot.connected := by
  rcases keeps with ⟨opens, closes⟩
  cases call with
  | connect => exact absurd rfl opens
  | disconnect => exact absurd rfl closes
  | _ => rfl

/-- A reached robot has opened its link, and any other is as it was. -/
theorem connected_of_answered {robot : SimulatedRobot} {reached : Bool}
    (answered : (perform .connect robot).result = .ok reached) :
    (robot.accept .connect).connected = (reached || robot.connected) := by
  simp only [perform] at answered
  split at answered
  next => cases answered
  next =>
    rw [← Except.ok.inj answered, accept_connect, fst_apply_connect]
    exact Bool.or_comm _ _

end SimulatedRobot

namespace IsLink

variable {ρ τ : Type} [Robot ρ] {core : ρ → SimulatedRobot}

/-- Calls that fail do not concern the link at all. -/
theorem connected_of_accepted (link : IsLink core) {start last : ρ} {gain : Journal}
    (exchange : Exchange start gain last) (keeps : ∀ call ∈ gain.accepted, call.KeepsLink) :
    (core last).connected = (core start).connected := by
  rw [link.core_exchange exchange]
  generalize core start = robot
  generalize gain.accepted = calls at keeps
  induction calls generalizing robot with
  | nil => rfl
  | cons call rest ih =>
      obtain ⟨now, later⟩ := List.forall_mem_cons.mp keeps
      rw [List.foldl_cons, ih _ later, SimulatedRobot.connected_accept now]

theorem connected_of_keeps (link : IsLink core) {start last : ρ} {gain : Journal}
    (exchange : Exchange start gain last) (keeps : ∀ call ∈ gain.calls, call.KeepsLink) :
    (core last).connected = (core start).connected :=
  link.connected_of_accepted exchange fun call inside => keeps call (gain.accepted_subset inside)

end IsLink

/-! ## Requests to connect -/

namespace Session

variable {ρ τ : Type} [Robot ρ] {core : ρ → SimulatedRobot}

theorem keepsLink_shownCalls (config : Config) :
    ∀ call ∈ shownCalls config, call.KeepsLink := by
  apply Call.keepsLink_of_not_mem
  · simp [shownCalls]
  · simp [shownCalls]

theorem unshown_of_failed {config : Config} {journal : Journal} {error : DeviceError}
    (tried : Tried (shownCalls config) journal.attempts (some error)) : journal.Unshown := by
  rcases tried.exists_failed with ⟨call, shows, failed⟩
  refine ⟨call, error, failed, ?_⟩
  rcases List.mem_cons.mp shows with blue | hold
  · exact .inl blue
  · exact .inr ⟨_, List.mem_singleton.mp hold⟩

/-- The reset neither shows nor holds anything. -/
theorem not_unshown_of_rest {journal : Journal} {failure : Option DeviceError}
    (tried : Tried restCalls journal.attempts failure) : ¬journal.Unshown := by
  rintro ⟨call, error, failed, shows⟩
  have among : call ∈ restCalls := tried.subset (List.mem_map_of_mem failed)
  rcases shows with rfl | ⟨millis, rfl⟩
  · simp [restCalls] at among
  · simp [restCalls] at among

/-- How a welcome ends: it counts exactly if the LED and the hold succeeded, whether or not the
reset succeeds after them. -/
inductive Welcoming (gain : Journal) (before after : Desk ρ τ) : Prop
  | unshown (failed : gain.Unshown) (same : after.session = before.session)
  | shown (showed : ¬gain.Unshown)
      (noted : after.session = { before.session with connected := true })

theorem not_reached_silent (script : List Call) (robot : ρ) :
    ¬(Score.play (script.map .silent) robot).records.Reached := by
  rintro ⟨attempt, happened⟩
  rw [Score.records_play_silent, Journal.events_map_ofAttempt] at happened
  cases happened

theorem not_reached_rest (robot : ρ) : ¬(restScore.play robot).records.Reached := by
  rintro ⟨attempt, happened⟩
  rw [events_play_restScore] at happened
  split at happened
  next => simp at happened
  next => cases happened

/-- Shows on the LED that the robot was reached. -/
def showReached (config : Config) : Act ρ τ Unit := do
  Act.call (.setLed ⟨0, 0, 255⟩)
  Act.call (.wait config.feedbackMillis)

theorem follows_showReached (config : Config) :
    (showReached config : Act ρ τ Unit).Follows ((shownCalls config).map .silent) (· = ()) := by
  apply Act.follows_silent_bind
  intro _
  exact (Act.follows_call _).weaken fun _ _ => rfl

theorem keepsLink_shown (config : Config) (robot : ρ) :
    ∀ call ∈ (Score.play ((shownCalls config).map .silent) robot).records.calls,
      call.KeepsLink := by
  intro call inside
  have among := Score.calls_play_subset _ _ inside
  rw [Score.calls_silent] at among
  exact keepsLink_shownCalls config call among

theorem keepsLink_rest (robot : ρ) :
    ∀ call ∈ (restScore.play robot).records.calls, call.KeepsLink := by
  intro call inside
  exact keepsLink_restCalls call (restScore.calls_play_subset robot inside)

/-- The world once the log is told of a reached robot. -/
def greeted (attempt : Nat) (before : World ρ τ) : World ρ τ :=
  before.record (.notice ⟨.info, s!"Session: connected on attempt {attempt}"⟩)

theorem welcome_of_unshown {attempt : Nat} {before : Desk ρ τ} {error : DeviceError}
    {shown : World ρ τ}
    (failed : showReached before.session.config (greeted attempt before.world) =
      .error error shown) :
    welcome attempt before = .error (.device error) ⟨before.session, shown⟩ := by
  change (Operation.act (showReached _) >>= _)
    (⟨before.session, greeted attempt before.world⟩ : Desk ρ τ) = _
  rw [Act.bind_of_error (Operation.act_of_error failed)]

theorem welcome_of_shown {attempt : Nat} {before : Desk ρ τ} {shown : World ρ τ}
    (showed : showReached before.session.config (greeted attempt before.world) = .ok () shown) :
    welcome attempt before = reset ⟨{ before.session with connected := true }, shown⟩ := by
  change (Operation.act (showReached _) >>= _)
    (⟨before.session, greeted attempt before.world⟩ : Desk ρ τ) = _
  rw [Act.bind_of_ok (Operation.act_of_ok showed)]
  rfl

theorem welcome_welcomes (attempt : Nat) (before : Desk ρ τ) :
    ∃ gain, World.Leads gain before.world (Act.leaves (welcome attempt) before).world ∧
      (∀ call ∈ gain.calls, call.KeepsLink) ∧ ¬gain.Reached ∧
      Welcoming gain before (Act.leaves (welcome attempt) before) := by
  let script : Score := (shownCalls before.session.config).map .silent
  let start := greeted attempt before.world
  rcases (follows_showReached before.session.config).result_eq start with ⟨shown, ran, carries⟩
  have leads := (World.Leads.notice _ before.world).trans carries.leads
  have tried := Score.tried_play_silent (shownCalls before.session.config) start.robot
  have keeps := keepsLink_shown before.session.config start.robot
  cases completed : (script.play start.robot).failure with
  | some error =>
      rw [Played.result_of_some completed] at ran
      rw [completed] at tried
      rw [Act.leaves_of_error (welcome_of_unshown ran)]
      exact ⟨_, leads, keeps, not_reached_silent _ _, .unshown (unshown_of_failed tried) rfl⟩
  | none =>
      rw [Played.result_of_none completed] at ran
      rw [completed] at tried
      rw [Act.leaves_of_eq (welcome_of_shown ran), reset, Operation.leaves_act]
      have further := (follows_quiesceAndReport (ρ := ρ) (τ := τ)).carries shown
      have rested := Score.tried_play restScore shown.robot
      rw [calls_restScore] at rested
      refine ⟨_, leads.trans further.leads, ?_, ?_, .shown ?_ rfl⟩
      · intro call inside
        rw [Journal.calls_append] at inside
        exact (List.mem_append.mp inside).elim (keeps call) (keepsLink_rest shown.robot call)
      · rw [Journal.reached_append]
        exact not_or_intro (not_reached_silent _ _) (not_reached_rest _)
      · rw [Journal.unshown_append]
        refine not_or_intro ?_ (not_unshown_of_rest rested)
        rintro ⟨call, error, failed, -⟩
        exact tried.not_failing failed

/-- The world once the log is told of an attempt that did not reach the robot. -/
def lamented (config : Config) (attempt : Nat) (before : World ρ τ) : World ρ τ :=
  let told := s!"Session: connect attempt {attempt}/{config.connectAttempts.toNat} failed"
  before.record (.notice ⟨.warn, told⟩)

/-- The world once the red LED was tried. -/
def reddened (before : World ρ τ) : World ρ τ :=
  Act.afterCall (Robot.perform (.setLed ⟨255, 0, 0⟩) before.robot) before

section Unreached

variable {config : Config} {attempt : Nat} {before : World ρ τ}

theorem showUnreached_of_unlit {error : DeviceError}
    (unlit : (Robot.perform (.setLed ⟨255, 0, 0⟩) (lamented config attempt before).robot).result =
      .error error) :
    showUnreached config attempt before = .ok () (reddened (lamented config attempt before)) := by
  change (Act.outcome _ >>= _) (lamented config attempt before) = _
  rw [Act.bind_of_ok (Act.outcome_of_error (Act.call_of_error unlit))]
  rfl

theorem showUnreached_of_lit
    (lit : (Robot.perform (.setLed ⟨255, 0, 0⟩) (lamented config attempt before).robot).result =
      .ok ()) :
    showUnreached config attempt before =
      Act.call (.wait config.feedbackMillis) (reddened (lamented config attempt before)) := by
  change (Act.outcome _ >>= _) (lamented config attempt before) = _
  rw [Act.bind_of_ok (Act.outcome_of_ok (Act.call_of_ok lit))]
  rfl

end Unreached

/-- An attempt that did not reach the robot may fail to show it, but it only lets the next one
follow if no hold failed. -/
theorem showUnreached_leads (config : Config) (attempt : Nat) (before : World ρ τ) :
    ∃ gain, World.Leads gain before (Act.leaves (showUnreached config attempt) before) ∧
      (∀ call ∈ gain.calls, call.KeepsLink) ∧ ¬gain.Reached ∧
      ∀ after, showUnreached config attempt before = .ok () after → ¬gain.Unshown := by
  let noticed := lamented config attempt before
  let lit := reddened noticed
  have started : World.Leads [] before noticed := .notice _ before
  cases shown : (Robot.perform (.setLed ⟨255, 0, 0⟩) noticed.robot).result with
  | error error =>
      rw [Act.leaves_of_ok (showUnreached_of_unlit shown)]
      refine ⟨_, started.trans (.call_of_error shown), ?_, ?_, ?_⟩
      · simp [Call.KeepsLink]
      · simp [Journal.Reached]
      · simp [Journal.Unshown]
  | ok reply =>
      have shows := started.trans (.call_of_ok shown)
      rw [Act.leaves_of_eq (showUnreached_of_lit shown), showUnreached_of_lit shown]
      cases held : (Robot.perform (.wait config.feedbackMillis) lit.robot).result with
      | error error =>
          rw [Act.leaves_of_error (Act.call_of_error held), Act.call_of_error held]
          refine ⟨_, shows.trans (.call_of_error held), ?_, ?_, ?_⟩
          · simp [Call.KeepsLink]
          · simp [Journal.Reached]
          · simp
      | ok reply =>
          rw [Act.leaves_of_ok (Act.call_of_ok held)]
          refine ⟨_, shows.trans (.call_of_ok held), ?_, ?_, ?_⟩
          · simp [Call.KeepsLink]
          · simp [Journal.Reached]
          · simp [Journal.Unshown]

/-- How a row of attempts to connect ends. -/
inductive Landing (core : ρ → SimulatedRobot) (gain : Journal) (before after : Desk ρ τ) : Prop
  | missed (unreached : ¬gain.Reached) (same : after.session = before.session)
      (unchanged : (core after.world.robot).connected = (core before.world.robot).connected)
  | stranded (reached : gain.Reached) (failed : gain.Unshown)
      (same : after.session = before.session)
      (opened : (core after.world.robot).connected = true)
  | welcomed (reached : gain.Reached) (showed : ¬gain.Unshown)
      (noted : after.session = { before.session with connected := true })
      (opened : (core after.world.robot).connected = true)

omit [Robot ρ] in
/-- An attempt that missed makes no difference to how the ones after it end. -/
theorem Landing.after_miss {first later : Journal} {before between after : Desk ρ τ}
    (lands : Landing core later between after) (unreached : ¬first.Reached)
    (showed : ¬first.Unshown) (same : between.session = before.session)
    (unchanged : (core between.world.robot).connected = (core before.world.robot).connected) :
    Landing core (first ++ later) before after := by
  cases lands with
  | missed unreached' same' unchanged' =>
      refine .missed ?_ (same'.trans same) (unchanged'.trans unchanged)
      rw [Journal.reached_append]
      exact not_or_intro unreached unreached'
  | stranded reached failed same' opened =>
      refine .stranded ?_ ?_ (same'.trans same) opened
      · exact Journal.reached_append.mpr (.inr reached)
      · exact Journal.unshown_append.mpr (.inr failed)
  | welcomed reached showed' noted opened =>
      refine .welcomed ?_ ?_ (by rw [noted, same]) opened
      · exact Journal.reached_append.mpr (.inr reached)
      · rw [Journal.unshown_append]
        exact not_or_intro showed showed'

/-! What an attempt does, by what its call gives. -/

section Attempt

variable {remaining : Nat} {before : Desk ρ τ} (attempt : Nat)

/-- The world once a call to connect was answered. -/
def answered (before : World ρ τ) : World ρ τ :=
  Act.afterCall (Robot.perform .connect before.robot) before

/-- The world once an answer is reported. -/
def reported (attempt : Nat) (reached : Bool) (before : World ρ τ) : World ρ τ :=
  (answered before).record (.event (.connectAttempt attempt reached))

/-- An attempt up to its report. -/
def knock (attempt : Nat) : Act ρ τ Bool := do
  let reached ← Act.call .connect
  Act.emit (.connectAttempt attempt reached)
  pure reached

theorem knock_of_ok {start : World ρ τ} {reached : Bool}
    (accepted : (Robot.perform .connect start.robot).result = .ok reached) :
    knock attempt start = .ok reached (reported attempt reached start) :=
  Act.bind_of_ok (Act.call_of_ok accepted)

theorem knock_of_error {start : World ρ τ} {error : DeviceError}
    (refused : (Robot.perform .connect start.robot).result = .error error) :
    knock attempt start = .error error (answered start) :=
  Act.bind_of_error (Act.call_of_error refused)

theorem connectFrom_of_error {error : DeviceError}
    (refused : (Robot.perform .connect before.world.robot).result = .error error) :
    connectFrom (remaining + 1) attempt before =
      .error (.device error) ⟨before.session, answered before.world⟩ :=
  Act.bind_of_error (Operation.act_of_error (knock_of_error attempt refused))

theorem connectFrom_of_reached
    (reached : (Robot.perform .connect before.world.robot).result = .ok true) :
    connectFrom (remaining + 1) attempt before =
      (welcome attempt >>= fun _ => pure true)
        ⟨before.session, reported attempt true before.world⟩ :=
  Act.bind_of_ok (Operation.act_of_ok (knock_of_ok attempt reached))

theorem connectFrom_of_missed
    (missed : (Robot.perform .connect before.world.robot).result = .ok false) :
    connectFrom (remaining + 1) attempt before =
      (Operation.act (showUnreached before.session.config attempt) >>= fun _ =>
        connectFrom remaining (attempt + 1))
        ⟨before.session, reported attempt false before.world⟩ :=
  Act.bind_of_ok (Operation.act_of_ok (knock_of_ok attempt missed))

theorem leads_reported {reached : Bool} {start : World ρ τ}
    (accepted : (Robot.perform .connect start.robot).result = .ok reached) :
    World.Leads [.call .connect none, .event (.connectAttempt attempt reached)] start
      (reported attempt reached start) :=
  (World.Leads.call_of_ok accepted).trans (.event _ (answered start))

theorem connected_reported (link : IsLink core) {reached : Bool} {start : World ρ τ}
    (accepted : (Robot.perform .connect start.robot).result = .ok reached) :
    (core (reported attempt reached start).robot).connected =
      (reached || (core start.robot).connected) := by
  change (core (answered start).robot).connected = _
  rw [answered, Act.robot_afterCall, (link.accepts accepted).2]
  exact SimulatedRobot.connected_of_answered (link.accepts accepted).1

end Attempt

/-- An attempt that reached the robot decides. -/
theorem welcome_lands (link : IsLink core) {before : Desk ρ τ} (attempt : Nat)
    (reached : (Robot.perform .connect before.world.robot).result = .ok true) :
    let after := Act.leaves (welcome attempt)
      ⟨before.session, reported attempt true before.world⟩
    ∃ gain, World.Leads gain before.world after.world ∧ Landing core gain before after := by
  intro after
  obtain ⟨gain, further, keeps, -, welcoming⟩ :=
    welcome_welcomes attempt ⟨before.session, reported attempt true before.world⟩
  have opened := link.connected_of_keeps further.robot keeps
  rw [connected_reported attempt link reached, Bool.true_or] at opened
  have here : Journal.Reached
      ([.call .connect none, .event (.connectAttempt attempt true)] ++ gain) :=
    Journal.reached_append.mpr (.inl ⟨attempt, by simp⟩)
  refine ⟨_, (leads_reported attempt reached).trans further, ?_⟩
  cases welcoming with
  | unshown failed same =>
      exact .stranded here (Journal.unshown_append.mpr (.inr failed)) same opened
  | shown showed noted =>
      refine .welcomed here ?_ noted opened
      rw [Journal.unshown_append]
      refine not_or_intro ?_ showed
      simp [Journal.Unshown]

/-- The induction is on the attempts left: those that missed are passed by, and the first other
one decides. -/
theorem connectFrom_lands (link : IsLink core) (remaining attempt : Nat) (before : Desk ρ τ) :
    ∃ gain,
      World.Leads gain before.world (Act.leaves (connectFrom remaining attempt) before).world ∧
      Landing core gain before (Act.leaves (connectFrom remaining attempt) before) := by
  induction remaining generalizing attempt before with
  | zero =>
      refine ⟨[], World.Leads.notice _ before.world, .missed ?_ rfl rfl⟩
      simp [Journal.Reached]
  | succ remaining ih =>
      cases outcome : (Robot.perform .connect before.world.robot).result with
      | error error =>
          rw [Act.leaves_of_error (connectFrom_of_error attempt outcome)]
          refine ⟨_, .call_of_error outcome, .missed ?_ rfl ?_⟩
          · simp [Journal.Reached]
          · rw [answered, Act.robot_afterCall, link.refuses outcome]
      | ok reached =>
          cases reached with
          | true =>
              rw [Act.leaves_of_eq (connectFrom_of_reached attempt outcome), Act.leaves_bind_pure]
              exact welcome_lands link attempt outcome
          | false =>
              rw [Act.leaves_of_eq (connectFrom_of_missed attempt outcome)]
              obtain ⟨gain, shows, keeps, unreached, quiet⟩ :=
                showUnreached_leads before.session.config attempt
                  (reported attempt false before.world)
              have leads := (leads_reported attempt outcome).trans shows
              have unchanged := link.connected_of_keeps shows.robot keeps
              rw [connected_reported attempt link outcome, Bool.false_or] at unchanged
              have missed : ¬Journal.Reached
                  ([.call .connect none, .event (.connectAttempt attempt false)] ++ gain) := by
                rw [Journal.reached_append]
                refine not_or_intro ?_ unreached
                simp [Journal.Reached]
              cases shown : showUnreached before.session.config attempt
                  (reported attempt false before.world) with
              | error error after =>
                  rw [Act.leaves_of_error shown] at leads unchanged
                  rw [Act.leaves_bind_of_error (Operation.act_of_error shown)]
                  exact ⟨_, leads, .missed missed rfl unchanged⟩
              | ok value after =>
                  rw [Act.leaves_of_ok shown] at leads unchanged
                  rw [Act.leaves_bind_of_ok (Operation.act_of_ok shown)]
                  rcases ih (attempt + 1) ⟨before.session, after⟩ with ⟨later, onward, lands⟩
                  refine ⟨_, leads.trans onward, lands.after_miss missed ?_ rfl unchanged⟩
                  rw [Journal.unshown_append]
                  refine not_or_intro ?_ (quiet after shown)
                  simp [Journal.Unshown]

theorem connect_lands (link : IsLink core) (before : Desk ρ τ) :
    ∃ gain, World.Leads gain before.world (Act.leaves connect before).world ∧
      Landing core gain before (Act.leaves connect before) :=
  connectFrom_lands link before.session.config.connectAttempts.toNat 1 before

end Session

end Rover
