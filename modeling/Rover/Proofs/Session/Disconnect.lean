import Mathlib.Data.List.Induction
import Rover.Proofs.Session.Connect

/-!
# Requests to disconnect

A request to disconnect brings the robot to rest and then closes the link. Until its last call
succeeds nothing is settled: the session still counts as connected, the link is as it was, and the
request can be made again. Only the one that comes to its end is reported as such.
-/

namespace Rover

namespace Session

/-- The calls of a request to disconnect: those of the reset, and then the one that closes the
link. -/
def leaveCalls : List Call := restCalls ++ [.disconnect]

/-- What is reported of a request to disconnect. The reset comes to its end just if only the last
call can still fail. -/
def leaveReport (gain : Journal) : Option DeviceError → List Event
  | none => [.robotReset, .disconnected]
  | some error => if (.disconnect, some error) ∈ gain.attempts then [.robotReset] else []

variable {ρ τ : Type} [Robot ρ] {core : ρ → SimulatedRobot}

/-- Without a link in the session's view nothing is done. -/
theorem disconnect_of_unconnected {before : Desk ρ τ}
    (unconnected : before.session.connected = false) :
    disconnect before = .ok () before := by
  change (if before.session.connected then _ else pure () : Operation ρ τ Unit) before = _
  rw [unconnected]
  rfl

/-- The link is closed after the reset, and only if this succeeded. -/
theorem disconnect_of_connected {before : Desk ρ τ}
    (connected : before.session.connected = true) :
    disconnect before =
      (reset >>= fun _ => Operation.act (Act.call .disconnect) >>= fun _ =>
        (do
          Operation.change fun session => { session with connected := false }
          Operation.act (Act.emit .disconnected)
          Operation.notice .info "Session: disconnected")) before := by
  change (if before.session.connected then _ else pure () : Operation ρ τ Unit) before = _
  rw [connected]
  rfl

/-! ## One request -/

/-- What a request to disconnect does if the session counts as connected: its calls are tried up to
the first that fails, whose failure is its answer, and the session takes notice just if none does.
-/
structure Departs (gain : Journal) (failure : Option DeviceError) (before : Desk ρ τ) : Prop where
  leads : World.Leads gain before.world (Act.leaves disconnect before).world
  tried : Tried leaveCalls gain.attempts failure
  answer : Act.answer disconnect before =
    match failure with
    | none => .ok ()
    | some error => .error (.device error)
  session : (Act.leaves disconnect before).session =
    { before.session with connected := failure.isSome }
  events : gain.events = leaveReport gain failure

section Request

variable {before : Desk ρ τ} {between : World ρ τ} {gain : Journal}

/-- The reset failed, so the link is not looked at. -/
theorem departs_unrested (connected : before.session.connected = true) {error : DeviceError}
    (rested : quiesceAndReport before.world = .error error between)
    (leads : World.Leads gain before.world between)
    (tried : Tried restCalls gain.attempts (some error)) (quiet : gain.events = []) :
    Departs gain (some error) before := by
  have ran : disconnect before = .error (.device error) ⟨before.session, between⟩ := by
    rw [disconnect_of_connected connected, reset]
    exact Act.bind_of_error (Operation.act_of_error rested)
  have other : (.disconnect, some error) ∉ gain.attempts := fun inside => by
    simpa [restCalls] using tried.subset (List.mem_map_of_mem inside)
  have left := Act.leaves_of_error ran
  refine ⟨?_, tried.append_of_some _, by rw [Act.answer, ran], ?_, ?_⟩
  · rwa [left]
  · rw [left, Option.isSome_some, ← connected]
  · rw [leaveReport, if_neg other, quiet]

/-- The robot is at rest, and the link could not be closed. -/
theorem departs_unclosed (connected : before.session.connected = true) {error : DeviceError}
    (rested : quiesceAndReport before.world = .ok () between)
    (refused : (Robot.perform .disconnect between.robot).result = .error error)
    (leads : World.Leads gain before.world between) (tried : Tried restCalls gain.attempts none)
    (reported : gain.events = [.robotReset]) :
    Departs (gain ++ [.call .disconnect (some error)]) (some error) before := by
  have closes : Operation.act (Act.call .disconnect) (⟨before.session, between⟩ : Desk ρ τ) = _ :=
    Operation.act_of_error (Act.call_of_error refused)
  have ran := disconnect_of_connected connected
  rw [reset, Act.bind_of_ok (Operation.act_of_ok rested), Act.bind_of_error closes] at ran
  have left := Act.leaves_of_error ran
  have attempts : Journal.attempts (gain ++ [.call .disconnect (some error)]) =
      restCalls.map (fun call => (call, none)) ++ [(.disconnect, some error)] := by
    rw [Journal.attempts_append, tried.eq_of_none]
    rfl
  refine ⟨?_, ?_, by rw [Act.answer, ran], ?_, ?_⟩
  · rw [left]
    exact leads.trans (.call_of_error refused)
  · rw [attempts]
    exact .cut restCalls .disconnect [] error
  · rw [left, Option.isSome_some, ← connected]
  · rw [leaveReport, attempts, if_pos (List.mem_append_right _ List.mem_cons_self),
      Journal.events_append, reported]
    rfl

/-- The robot is at rest and the link is closed. -/
theorem departs_closed (connected : before.session.connected = true) {reply : Unit}
    (rested : quiesceAndReport before.world = .ok () between)
    (accepted : (Robot.perform .disconnect between.robot).result = .ok reply)
    (leads : World.Leads gain before.world between) (tried : Tried restCalls gain.attempts none)
    (reported : gain.events = [.robotReset]) :
    Departs (gain ++ [.call .disconnect none, .event .disconnected]) none before := by
  have closes : Operation.act (Act.call .disconnect) (⟨before.session, between⟩ : Desk ρ τ) = _ :=
    Operation.act_of_ok (Act.call_of_ok accepted)
  have ran := disconnect_of_connected connected
  rw [reset, Act.bind_of_ok (Operation.act_of_ok rested), Act.bind_of_ok closes] at ran
  have left := Act.leaves_of_ok ran
  have tells := (World.Leads.event .disconnected
    (Act.afterCall (Robot.perform .disconnect between.robot) between)).trans
      (.notice ⟨.info, "Session: disconnected"⟩ _)
  refine ⟨?_, ?_, by rw [Act.answer, ran]; rfl, ?_, ?_⟩
  · rw [left]
    exact leads.trans ((World.Leads.call_of_ok accepted).trans tells)
  · rw [Journal.attempts_append, tried.eq_of_none]
    exact .all leaveCalls
  · rw [left]
    rfl
  · rw [Journal.events_append, reported]
    rfl

theorem exists_departs (connected : before.session.connected = true) :
    ∃ gain failure, Departs gain failure before := by
  obtain ⟨between, rest, carries⟩ :=
    (follows_quiesceAndReport (ρ := ρ) (τ := τ)).result_eq before.world
  have tried := Score.tried_play restScore before.world.robot
  have reported := events_play_restScore before.world.robot
  rw [calls_restScore] at tried
  cases completed : (restScore.play before.world.robot).failure with
  | some error =>
      rw [Played.result_of_some completed] at rest
      rw [completed] at tried reported
      exact ⟨_, _, departs_unrested connected rest carries.leads tried reported⟩
  | none =>
      rw [Played.result_of_none completed] at rest
      rw [completed] at tried reported
      cases outcome : (Robot.perform .disconnect between.robot).result with
      | error error =>
          exact ⟨_, _, departs_unclosed connected rest outcome carries.leads tried reported⟩
      | ok reply =>
          exact ⟨_, _, departs_closed connected rest outcome carries.leads tried reported⟩

end Request

namespace Departs

variable {gain : Journal} {before : Desk ρ τ}

/-- The call that closes the link is the last one, so whichever failed, the link is as it was. -/
theorem connected_of_some {error : DeviceError} (departs : Departs gain (some error) before)
    (link : IsLink core) :
    (core (Act.leaves disconnect before).world.robot).connected =
      (core before.world.robot).connected := by
  apply link.connected_of_accepted departs.leads.robot
  intro call inside
  exact keepsLink_restCalls call (departs.tried.accepted_subset_dropLast inside)

/-- The far end has accepted all of the calls. -/
theorem robot_of_none (departs : Departs gain none before) (link : IsLink core) :
    let robot := core (Act.leaves disconnect before).world.robot
    robot.connected = false ∧ robot.isQuiescent = true := by
  intro robot
  have accepted : robot = leaveCalls.foldl SimulatedRobot.accept (core before.world.robot) := by
    rw [← departs.tried.accepted_of_none]
    exact link.core_exchange departs.leads.robot
  rw [accepted]
  exact ⟨rfl, rfl⟩

end Departs

/-- A request to disconnect either fails and leaves the link as it was, or closes it. -/
theorem disconnect_cases (link : IsLink core) {before : Desk ρ τ}
    (connected : before.session.connected = true) :
    let after := Act.leaves disconnect before
    (after.session = before.session ∧
      (core after.world.robot).connected = (core before.world.robot).connected) ∨
    (after.session.connected = false ∧ (core after.world.robot).connected = false) := by
  intro after
  obtain ⟨gain, failure, departs⟩ := exists_departs connected
  cases failure with
  | some error =>
      refine .inl ⟨?_, departs.connected_of_some link⟩
      rw [departs.session, Option.isSome_some, ← connected]
  | none => exact .inr ⟨congrArg Session.connected departs.session, (departs.robot_of_none link).1⟩

/-! ## Repeated requests -/

section Repeated

variable [Ticker τ]

/-- The desk after so many requests to disconnect. -/
def afterDisconnects (times : Nat) (before : Desk ρ τ) : Desk ρ τ :=
  Request.serveAll (List.replicate times .disconnect) before

theorem afterDisconnects_succ (times : Nat) (before : Desk ρ τ) :
    afterDisconnects (times + 1) before =
      Act.leaves disconnect (afterDisconnects times before) := by
  rw [afterDisconnects, List.replicate_succ', Request.serveAll_concat]
  rfl

/-- The session and the link are as they were, and nothing but resets was reported. -/
structure Persists (core : ρ → SimulatedRobot) (gain : Journal) (before after : Desk ρ τ) :
    Prop where
  leads : World.Leads gain before.world after.world
  session : after.session = before.session
  link : (core after.world.robot).connected = (core before.world.robot).connected
  resets : ∀ event ∈ gain.events, event = .robotReset

omit [Ticker τ] in
theorem Persists.trans {first second : Journal} {before between after : Desk ρ τ}
    (early : Persists core first before between) (late : Persists core second between after) :
    Persists core (first ++ second) before after where
  leads := early.leads.trans late.leads
  session := late.session.trans early.session
  link := late.link.trans early.link
  resets := by
    rw [Journal.events_append]
    exact List.forall_mem_append.mpr ⟨early.resets, late.resets⟩

omit [Ticker τ] in
theorem persists_of_error (link : IsLink core) {before : Desk ρ τ}
    (connected : before.session.connected = true) {error : Error}
    (failed : Act.answer disconnect before = .error error) :
    ∃ gain, Persists core gain before (Act.leaves disconnect before) := by
  obtain ⟨gain, failure, departs⟩ := exists_departs connected
  cases failure with
  | none => cases failed.symm.trans departs.answer
  | some error =>
      refine ⟨gain, departs.leads, ?_, departs.connected_of_some link, ?_⟩
      · rw [departs.session, Option.isSome_some, ← connected]
      · rw [departs.events, leaveReport]
        split <;> simp

/-- The induction is on how many requests have failed. -/
theorem persists_afterDisconnects (link : IsLink core) {before : Desk ρ τ}
    (connected : before.session.connected = true) {failures : Nat}
    (failed : ∀ earlier < failures, ∃ error,
      Act.answer disconnect (afterDisconnects earlier before) = .error error) :
    ∃ gain, Persists core gain before (afterDisconnects failures before) := by
  induction failures with
  | zero => exact ⟨[], .nowhere _, rfl, rfl, by simp⟩
  | succ failures ih =>
      obtain ⟨gain, persists⟩ := ih fun earlier sooner =>
        failed earlier (Nat.lt_succ_of_lt sooner)
      obtain ⟨error, last⟩ := failed failures (Nat.lt_succ_self failures)
      have still : (afterDisconnects failures before).session.connected = true := by
        rw [persists.session, connected]
      obtain ⟨further, onward⟩ := persists_of_error link still last
      rw [afterDisconnects_succ]
      exact ⟨_, persists.trans onward⟩

/-- The first request that succeeds finds everything as it was before those that failed. -/
theorem departs_after_failures (link : IsLink core) {before : Desk ρ τ}
    (connected : before.session.connected = true) {failures : Nat}
    (failed : ∀ earlier < failures, ∃ error,
      Act.answer disconnect (afterDisconnects earlier before) = .error error)
    (succeeded : Act.answer disconnect (afterDisconnects failures before) = .ok ()) :
    ∃ earlier last, Persists core earlier before (afterDisconnects failures before) ∧
      Departs last none (afterDisconnects failures before) := by
  obtain ⟨earlier, persists⟩ := persists_afterDisconnects link connected failed
  obtain ⟨last, failure, departs⟩ := exists_departs (persists.session ▸ connected)
  cases failure with
  | none => exact ⟨earlier, last, persists, departs⟩
  | some error => cases succeeded.symm.trans departs.answer

/-- Until a request to connect, a session that does not count as connected stays so, and its link is
left alone. -/
theorem unconnected_serveAll (link : IsLink core) {before : Desk ρ τ}
    (unconnected : before.session.connected = false) {requests : List (Request τ)}
    (without : .connect ∉ requests) :
    let later := Request.serveAll requests before
    later.session.connected = false ∧
      (core later.world.robot).connected = (core before.world.robot).connected := by
  induction requests using List.reverseRecOn with
  | nil => exact ⟨unconnected, rfl⟩
  | append_singleton requests last ih =>
      obtain ⟨still, same⟩ := ih fun inside => without (List.mem_append_left _ inside)
      have opens : last ≠ .connect := by
        rintro rfl
        exact without (List.mem_append_right _ List.mem_cons_self)
      rw [Request.serveAll_concat]
      by_cases closes : last = .disconnect
      · have unchanged : last.serve (Request.serveAll requests before) =
            Request.serveAll requests before := by
          rw [closes]
          exact Act.leaves_of_ok (disconnect_of_unconnected still)
        rw [unchanged]
        exact ⟨still, same⟩
      · obtain ⟨view, gain, leads, keeps⟩ := Request.stays_serve opens closes
          (Request.serveAll requests before)
        exact ⟨view.trans still, (link.connected_of_keeps leads.robot keeps).trans same⟩

/-- Without a link in the session's view a request to disconnect succeeds and does nothing at all.
Otherwise it tries the calls of the reset and the one that closes the link, up to the first that
fails. It succeeds just if all of them do, and only then the session takes notice and the far end is
unconnected and at rest. After any failure the session still counts as connected and the link is as
it was. So whatever fails before the first request that succeeds, the end of the link is reported
once, and from then on there is nothing to disconnect until a request to connect. -/
theorem disconnect_closes_once (before : Desk ρ τ) :
    (before.session.connected = false → disconnect before = .ok () before) ∧
    (before.session.connected = true → ∃ gain failure, Departs gain failure before ∧
      ∀ core : ρ → SimulatedRobot, IsLink core →
        let robot := core (Act.leaves disconnect before).world.robot
        match failure with
        | none => robot.connected = false ∧ robot.isQuiescent = true
        | some _ => robot.connected = (core before.world.robot).connected) ∧
    (before.session.connected = true → ∀ core : ρ → SimulatedRobot, IsLink core →
      ∀ failures : Nat,
        (∀ earlier < failures, ∃ error,
          Act.answer disconnect (afterDisconnects earlier before) = .error error) →
        Act.answer disconnect (afterDisconnects failures before) = .ok () →
        let after := afterDisconnects (failures + 1) before
        (∀ earlier ≤ failures, (afterDisconnects earlier before).session = before.session ∧
          (core (afterDisconnects earlier before).world.robot).connected =
            (core before.world.robot).connected) ∧
        after.session = { before.session with connected := false } ∧
        (core after.world.robot).connected = false ∧
        (core after.world.robot).isQuiescent = true ∧
        (∃ gain, World.Leads gain before.world after.world ∧
          gain.events.count .disconnected = 1) ∧
        ∀ requests : List (Request τ), .connect ∉ requests →
          let later := Request.serveAll requests after
          disconnect later = .ok () later ∧ (core later.world.robot).connected = false) := by
  refine ⟨disconnect_of_unconnected, ?_, ?_⟩
  · intro connected
    obtain ⟨gain, failure, departs⟩ := exists_departs connected
    refine ⟨gain, failure, departs, fun core link => ?_⟩
    cases failure with
    | none => exact departs.robot_of_none link
    | some error => exact departs.connected_of_some link
  · intro connected core link failures failed succeeded after
    obtain ⟨earlier, last, persists, departs⟩ :=
      departs_after_failures link connected failed succeeded
    have reached : after = Act.leaves disconnect (afterDisconnects failures before) :=
      afterDisconnects_succ failures before
    obtain ⟨closed, quiescent⟩ := departs.robot_of_none link
    have noted := departs.session
    rw [← reached] at closed quiescent noted
    refine ⟨?_, ?_, closed, quiescent, ⟨earlier ++ last, ?_, ?_⟩, ?_⟩
    · intro first early
      obtain ⟨_, persists⟩ := persists_afterDisconnects link connected fun sooner before =>
        failed sooner (Nat.lt_of_lt_of_le before early)
      exact ⟨persists.session, persists.link⟩
    · rw [noted, persists.session]
      rfl
    · rw [reached]
      exact persists.leads.trans departs.leads
    · have notClosed : .disconnected ∉ earlier.events := fun inside => by
        cases persists.resets _ inside
      rw [Journal.events_append, List.count_append, List.count_eq_zero.mpr notClosed,
        departs.events]
      rfl
    · intro requests without later
      have unconnected : after.session.connected = false := by rw [noted]; rfl
      obtain ⟨view, same⟩ := unconnected_serveAll link unconnected without
      exact ⟨disconnect_of_unconnected view, same.trans closed⟩

end Repeated

/-- A connected session, and a robot on the move behind a link that loses two calls: the second one,
and the sixth. -/
def twiceLost : Desk (Unreliable SimulatedRobot) ManualTicker where
  session := { Session.standard with connected := true }
  world :=
    { robot :=
        { robot := { connected := true, motors := (60, 60), tone := some 440 }
          faults := [⟨1, .writeFailed "note_off"⟩, ⟨5, .writeFailed "disconnect"⟩] }
      ticker := {} }

/-- The tone cannot be turned off at first, and then the link cannot be closed. The third request
comes to its end, and a fourth one does nothing. -/
theorem disconnect_closes_once_twiceLost :
    Act.answer disconnect twiceLost = .error (.device (.writeFailed "note_off")) ∧
      Act.answer disconnect (afterDisconnects 1 twiceLost) =
        .error (.device (.writeFailed "disconnect")) ∧
      (∃ gain failure, Departs gain failure (afterDisconnects 1 twiceLost)) ∧
      (∃ gain, World.Leads gain twiceLost.world (afterDisconnects 3 twiceLost).world ∧
        gain.events.count .disconnected = 1) ∧
      (afterDisconnects 3 twiceLost).world.robot.robot.isQuiescent = true ∧
      disconnect (afterDisconnects 3 twiceLost) = .ok () (afterDisconnects 3 twiceLost) := by
  have first : Act.answer disconnect twiceLost = .error (.device (.writeFailed "note_off")) := by
    decide +kernel
  have second : Act.answer disconnect (afterDisconnects 1 twiceLost) =
      .error (.device (.writeFailed "disconnect")) := by decide +kernel
  have third : Act.answer disconnect (afterDisconnects 2 twiceLost) = .ok () := by decide +kernel
  have failed : ∀ earlier < 2, ∃ error,
      Act.answer disconnect (afterDisconnects earlier twiceLost) = .error error := by
    intro earlier early
    obtain rfl | rfl : earlier = 0 ∨ earlier = 1 := by omega
    · exact ⟨_, first⟩
    · exact ⟨_, second⟩
  obtain ⟨-, -, closes⟩ := disconnect_closes_once twiceLost
  obtain ⟨-, -, -, quiescent, once, -⟩ := closes rfl _ isLink_id.unreliable 2 failed third
  obtain ⟨-, departs, -⟩ := disconnect_closes_once (afterDisconnects 1 twiceLost)
  obtain ⟨gain, failure, tries, -⟩ := departs (by decide +kernel)
  refine ⟨first, second, ⟨gain, failure, tries⟩, once, quiescent, ?_⟩
  exact (disconnect_closes_once (afterDisconnects 3 twiceLost)).1 (by decide +kernel)

end Session

end Rover
