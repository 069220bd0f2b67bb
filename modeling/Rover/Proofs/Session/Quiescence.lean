import Rover.Proofs.Session.Completion

/-!
# Rest between requests

Without an injected fault every request leaves a simulated robot at rest: it comes to its end, and
its last calls quiet what it started, or the robot is not connected and nothing was started. What
carries this over requests is that a robot out of reach is never connected.
-/

namespace Rover

/-! ## Single requests to a connected robot -/

open SimulatedRobot

variable {τ : Type}

namespace Session

theorem settled_rest {before : World SimulatedRobot τ} (linked : before.robot.Linked) :
    (Act.leaves quiesceAndReport before).robot.Settled := by
  obtain ⟨after, ran, -, -, settled⟩ := quiesceAndReport_of_linked linked
  rwa [Act.leaves_of_ok ran]

theorem settled_script {action : Act SimulatedRobot τ Unit} {script : List Call}
    (follows : action.Follows (script.map .silent) fun _ => True) (rests : restCalls <:+ script)
    (keeps : ∀ call ∈ script, call.KeepsLink) {before : World SimulatedRobot τ}
    (linked : before.robot.Linked) : (Act.leaves action before).robot.Settled := by
  rw [← Score.calls_silent script] at keeps
  obtain ⟨completed, still⟩ := linked.play keeps
  rw [(follows.carries before).robot]
  exact still.settled (isQuiescent_of_completed isLink_id rests completed)

theorem settled_runProgram {before : Desk SimulatedRobot τ}
    (linked : before.world.robot.Linked) :
    (Act.leaves runProgram before).world.robot.Settled := by
  obtain ⟨-, after, ran, -, -, settled⟩ := runProgram_of_linked before linked
  rwa [Act.leaves_of_ok ran]

variable [Ticker τ]

theorem settled_watch (tone : AlarmTone) (target : Monitor.Target) (settings : MonitorSettings)
    {before : World SimulatedRobot τ} (linked : before.robot.Linked)
    (rest : before.robot.isQuiescent = true) :
    (Act.leaves (target.watch tone settings) before).robot.Settled := by
  obtain ⟨between, sampled, reports, script, leads, among, sounds, carries⟩ :=
    Monitor.watch_leads tone settings target before
  have reads : ∀ call ∈ sampled.calls, call.isReading = true := fun call tried =>
    Monitor.isReading_calls target call (among call tried)
  obtain ⟨linked', rest'⟩ := linked_of_readings leads.robot reads linked rest
  have keeps : ∀ call ∈ Score.calls (script.map Cue.silent), call.KeepsLink := by
    rw [Score.calls_silent]
    rcases sounds with rfl | rfl
    · simp
    · exact Monitor.keepsLink_alarm tone
  obtain ⟨completed, still⟩ := linked'.play keeps
  rw [carries.robot, Score.play_map_report_append, Played.robot_precededBy]
  apply still.settled
  rw [robot_play_silent completed]
  rcases sounds with rfl | rfl
  · exact rest'
  · exact isQuiescent_foldl_alarm tone rest'

end Session

/-! ## Requests to connect and to disconnect -/

namespace Session

theorem settled_welcome (attempt : Nat) {before : Desk SimulatedRobot τ}
    (linked : before.world.robot.Linked) :
    (Act.leaves (welcome attempt) before).world.robot.Settled := by
  obtain ⟨after, welcomed, -, -, settled⟩ := welcome_of_linked attempt before linked
  rwa [Act.leaves_of_ok welcomed]

/-- The induction is on the attempts left. A robot that an attempt does not reach is not
connected, so it does not even show the failed attempt. -/
theorem settled_connectFrom (remaining attempt : Nat) {before : Desk SimulatedRobot τ}
    (settled : before.world.robot.Settled) :
    (Act.leaves (connectFrom remaining attempt) before).world.robot.Settled := by
  induction remaining generalizing attempt before with
  | zero => exact settled
  | succ remaining ih =>
      have answers := answer_connect settled.healthy
      have answeredRobot : ∀ reached, (reported attempt reached before.world).robot =
          before.world.robot.accept .connect := fun reached =>
        (Act.robot_afterCall _ _).trans (robot_of_answered answers)
      by_cases within : before.world.robot.unreachable = 0
      · rw [within, decide_eq_true rfl] at answers
        rw [Act.leaves_of_eq (connectFrom_of_reached attempt answers), Act.leaves_bind_pure]
        apply settled_welcome
        rw [answeredRobot]
        exact linked_accept_connect settled.healthy within
      · rw [decide_eq_false within] at answers
        have apart : before.world.robot.connected = false :=
          Bool.eq_false_iff.mpr (mt settled.within within)
        have apart' : (reported attempt false before.world).robot.connected = false := by
          rw [answeredRobot, connected_accept_connect_of_beyond within, apart]
        obtain ⟨gain, shows, keeps, -, -⟩ :=
          showUnreached_leads before.session.config attempt (reported attempt false before.world)
        have same :=
          exchange_of_unconnected shows.robot apart' fun call tried => (keeps call tried).1
        rw [answeredRobot] at same apart'
        have still : (Act.leaves (showUnreached before.session.config attempt)
            (reported attempt false before.world)).robot.Settled := by
          rw [same]
          refine ⟨(failing_accept _ .connect).trans settled.healthy, ?_, ?_⟩
          · intro connected
            rw [apart'] at connected
            cases connected
          · rw [isQuiescent_accept_connect, settled.rest]
        rw [Act.leaves_of_eq (connectFrom_of_missed attempt answers)]
        cases shown : showUnreached before.session.config attempt
            (reported attempt false before.world) with
        | error error after =>
            rw [Act.leaves_of_error shown] at still
            rwa [Act.leaves_bind_of_error (Operation.act_of_error shown)]
        | ok value after =>
            rw [Act.leaves_of_ok shown] at still
            rw [Act.leaves_bind_of_ok (Operation.act_of_ok shown)]
            exact ih (attempt + 1) still

theorem settled_disconnect {before : Desk SimulatedRobot τ} (linked : before.world.robot.Linked)
    (rest : before.world.robot.isQuiescent = true) :
    (Act.leaves disconnect before).world.robot.Settled := by
  cases connected : before.session.connected with
  | false =>
      rw [Act.leaves_of_ok (disconnect_of_unconnected connected)]
      exact linked.settled rest
  | true =>
      obtain ⟨after, left, -, settled⟩ := disconnect_of_linked before connected linked
      rwa [Act.leaves_of_ok left]

end Session

namespace Performance

open List (suffix_append suffix_cons)

theorem rests_lightAndSoundScript (top : UInt32) :
    Session.restCalls <:+ lightAndSoundScript top :=
  ((suffix_append _ _).trans (suffix_cons _ _)).trans (suffix_append _ _)

theorem rests_danceScript : Session.restCalls <:+ danceScript := by decide

theorem rests_mixingItUpScript : Session.restCalls <:+ mixingItUpScript := by decide

end Performance

namespace Request

variable [Ticker τ]

/-- Without a link a request to do anything but to connect is refused as a whole. -/
theorem robot_serve_of_unconnected {request : Request τ} (opens : request ≠ .connect)
    {before : Desk SimulatedRobot τ} (apart : before.world.robot.connected = false) :
    (request.serve before).world.robot = before.world.robot := by
  obtain ⟨gain, leads, among⟩ := (request.serve_leads before).calls
  apply exchange_of_unconnected leads.robot apart
  intro call tried
  by_cases closes : request = .disconnect
  · subst closes
    rcases List.mem_append.mp (among call tried) with rests | last
    · exact (Session.keepsLink_restCalls call rests).1
    · rw [List.mem_singleton.mp last]
      exact Call.noConfusion
  · exact (keepsLink_calls opens closes _ call (among call tried)).1

/-- Whatever the request, a settled robot is settled afterwards. -/
theorem settled_serve (request : Request τ) {before : Desk SimulatedRobot τ}
    (settled : before.world.robot.Settled) : (request.serve before).world.robot.Settled := by
  by_cases opens : request = .connect
  · subst opens
    exact Session.settled_connectFrom _ 1 settled
  cases connected : before.world.robot.connected with
  | false => rwa [robot_serve_of_unconnected opens connected]
  | true =>
      have linked := settled.linked connected
      cases request with
      | connect => exact absurd rfl opens
      | disconnect => exact Session.settled_disconnect linked settled.rest
      | reset =>
          rw [serve, Session.reset, Operation.leaves_act]
          exact Session.settled_rest linked
      | runProgram => exact Session.settled_runProgram linked
      | monitorLight sensor settings =>
          have watched := Session.settled_watch before.session.alarmTone (.light sensor) settings
            linked settled.rest
          exact (congrArg (·.world.robot.Settled) (Operation.leaves_act _ before)).mpr watched
      | monitorTemperature settings =>
          have watched := Session.settled_watch before.session.alarmTone .temperature settings
            linked settled.rest
          exact (congrArg (·.world.robot.Settled) (Operation.leaves_act _ before)).mpr watched
      | recordTemperature count period =>
          obtain ⟨gain, leads, among⟩ :=
            ((recordTemperature count period).serve_leads before).calls
          have reads : ∀ call ∈ gain.calls, call.isReading = true := by
            intro call tried
            rw [List.mem_singleton.mp (among call tried)]
            rfl
          obtain ⟨linked', rest'⟩ :=
            SimulatedRobot.linked_of_readings leads.robot reads linked settled.rest
          exact linked'.settled rest'
      | lightAndSound top =>
          rw [serve, Operation.leaves_act]
          exact Session.settled_script (Performance.follows_lightAndSound top)
            (Performance.rests_lightAndSoundScript top)
            (Performance.keepsLink_lightAndSoundScript top) linked
      | dance =>
          rw [serve, Operation.leaves_act]
          exact Session.settled_script Performance.follows_dance Performance.rests_danceScript
            Performance.keepsLink_danceScript linked
      | mixingItUp =>
          rw [serve, Operation.leaves_act]
          exact Session.settled_script Performance.follows_mixingItUp
            Performance.rests_mixingItUpScript Performance.keepsLink_mixingItUpScript linked
      | enterParameters speed brightness wait =>
          rw [serve, Session.enterParameters]
          cases Parameters.ofEntries speed brightness wait <;> exact settled
      | setParameters | setProgram | replaceTicker => exact settled

/-- The induction over the requests. -/
theorem settled_serveAll (requests : List (Request τ)) {fresh : Desk SimulatedRobot τ}
    (settled : fresh.world.robot.Settled) : (serveAll requests fresh).world.robot.Settled := by
  induction requests using List.reverseRecOn with
  | nil => exact settled
  | append_singleton requests last ih =>
      rw [serveAll_concat]
      exact settled_serve last ih

/-- With a simulated robot that has no fault and is at rest and not connected at first, however
long it stays out of reach and whatever its sensors read, the robot is at rest after any requests.
No call fails on the way but for the want of a link. -/
theorem isQuiescent_serveAll (fresh : Desk SimulatedRobot τ)
    (healthy : fresh.world.robot.failing = none) (apart : fresh.world.robot.connected = false)
    (rest : fresh.world.robot.isQuiescent = true) (requests : List (Request τ)) :
    (serveAll requests fresh).world.robot.isQuiescent = true ∧
    ∃ gain, World.Leads gain fresh.world (serveAll requests fresh).world ∧
      ∀ error ∈ gain.failures, error = .notConnected := by
  have settled : fresh.world.robot.Settled := by
    refine ⟨healthy, ?_, rest⟩
    intro connected
    rw [apart] at connected
    cases connected
  obtain ⟨gain, leads, -⟩ := (serveAll_leads requests fresh).calls
  exact ⟨(settled_serveAll requests settled).rest, gain, leads,
    failures_of_healthy leads.robot healthy⟩

/-- A robot that is reached by the third attempt is left dancing by no program. -/
theorem isQuiescent_after_dance :
    let fresh : Desk SimulatedRobot ManualTicker :=
      ⟨.standard, { robot := { unreachable := 2 }, ticker := {} }⟩
    let requests := [.dance, .connect, .setProgram [.songAndDance], .runProgram]
    (serveAll requests fresh).world.robot.connected = true ∧
      (serveAll requests fresh).world.robot.isQuiescent = true := by
  intro fresh requests
  have reached : (serveAll requests fresh).world.robot.connected = true := by decide +kernel
  exact ⟨reached, (isQuiescent_serveAll fresh rfl rfl (by decide +kernel) requests).1⟩

end Request

end Rover
