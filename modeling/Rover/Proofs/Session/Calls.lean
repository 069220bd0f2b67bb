import Mathlib.Data.List.Induction
import Rover.Proofs.Session.Parameters
import Rover.Proofs.Session.Request

/-!
# Calls of requests

What a session is set up with decides which calls a request can try, whatever the robot answers.
Neither the configuration of a session nor what was taken over from it ever changes, and its
parameters only become others within their bounds.
-/

namespace Rover

/-- One session goes over into another: the configuration stays and so does what was taken over
from it, and new parameters are within their bounds. -/
structure Session.Evolves (before after : Session) : Prop where
  config : after.config = before.config
  holds : after.holds = before.holds
  alarmTone : after.alarmTone = before.alarmTone
  parameters : after.parameters = before.parameters ∨ after.parameters.WF

namespace Session.Evolves

theorem refl (session : Session) : session.Evolves session := ⟨rfl, rfl, rfl, .inl rfl⟩

theorem trans {before between after : Session} (early : before.Evolves between)
    (late : between.Evolves after) : before.Evolves after where
  config := late.config.trans early.config
  holds := late.holds.trans early.holds
  alarmTone := late.alarmTone.trans early.alarmTone
  parameters := by
    rcases late.parameters with same | bounded
    · rw [same]
      exact early.parameters
    · exact .inr bounded

theorem wf {before after : Session} (evolves : before.Evolves after)
    (bounded : before.parameters.WF) : after.parameters.WF := by
  rcases evolves.parameters with same | bounded'
  · rwa [same]
  · exact bounded'

end Session.Evolves

variable {ρ τ α β : Type} [Robot ρ]

/-- One desk goes over into another by allowed calls. -/
structure Desk.Leads (allowed : Call → Prop) (before after : Desk ρ τ) : Prop where
  session : before.session.Evolves after.session
  calls : ∃ gain, World.Leads gain before.world after.world ∧ ∀ call ∈ gain.calls, allowed call

namespace Desk.Leads

variable {allowed : Call → Prop} {before between after : Desk ρ τ}

theorem nowhere (desk : Desk ρ τ) : desk.Leads allowed desk :=
  ⟨.refl _, [], .nowhere _, by simp⟩

theorem trans (early : before.Leads allowed between) (late : between.Leads allowed after) :
    before.Leads allowed after where
  session := early.session.trans late.session
  calls := by
    obtain ⟨gain, leads, permitted⟩ := early.calls
    obtain ⟨gain', leads', permitted'⟩ := late.calls
    refine ⟨gain ++ gain', leads.trans leads', ?_⟩
    rw [Journal.calls_append]
    exact List.forall_mem_append.mpr ⟨permitted, permitted'⟩

theorem weaken {allowed' : Call → Prop} (leads : before.Leads allowed after)
    (weaker : ∀ call, allowed call → allowed' call) : before.Leads allowed' after where
  session := leads.session
  calls := by
    obtain ⟨gain, leads, permitted⟩ := leads.calls
    exact ⟨gain, leads, fun call tried => weaker call (permitted call tried)⟩

end Desk.Leads

namespace Operation

/-- From every session with the given configuration the operation tries allowed calls only. -/
def Tries (config : Config) (allowed : Call → Prop) (operation : Operation ρ τ α) : Prop :=
  ∀ before : Desk ρ τ, before.session.config = config →
    before.Leads allowed (Act.leaves operation before)

variable {config : Config} {allowed : Call → Prop}

theorem tries_pure (value : α) : Tries config allowed (pure value : Operation ρ τ α) :=
  fun before _ => .nowhere before

theorem tries_throw (error : Error) : Tries config allowed (throw error : Operation ρ τ α) :=
  fun before _ => .nowhere before

theorem tries_act {action : Act ρ τ α} (tries : action.Tries allowed) :
    Tries config allowed (act action) := by
  intro before _
  rw [leaves_act]
  exact ⟨.refl _, tries before.world⟩

theorem tries_notice (level : Level) (text : String) :
    Tries config allowed (notice level text : Operation ρ τ Unit) :=
  tries_act (Act.tries_notice level text)

theorem tries_change {update : Session → Session}
    (evolves : ∀ session : Session, session.Evolves (update session)) :
    Tries config allowed (change update : Operation ρ τ Unit) :=
  fun before _ => ⟨evolves before.session, [], .nowhere before.world, by simp⟩

theorem tries_bind {operation : Operation ρ τ α} {next : α → Operation ρ τ β}
    (tries : Tries config allowed operation)
    (continues : ∀ value, Tries config allowed (next value)) :
    Tries config allowed (operation >>= next) := by
  intro before settled
  have early := tries before settled
  cases ran : operation before with
  | error error between =>
      rw [Act.leaves_of_error ran] at early
      rwa [Act.leaves_bind_of_error ran]
  | ok value between =>
      rw [Act.leaves_of_ok ran] at early
      rw [Act.leaves_bind_of_ok ran]
      exact early.trans (continues value between (early.session.config.trans settled))

/-- What is read from the session is read from one with the given configuration. -/
theorem tries_session_bind {next : Session → Operation ρ τ α}
    (continues : ∀ session : Session, session.config = config →
      Tries config allowed (next session)) :
    Tries config allowed (Operation.session >>= next) := by
  intro before settled
  exact continues before.session settled before settled

end Operation

namespace Session

variable {allowed : Call → Prop}

theorem tries_quiesceAndReport (permitted : ∀ call ∈ restCalls, allowed call) :
    (quiesceAndReport : Act ρ τ Unit).Tries allowed := by
  apply follows_quiesceAndReport.tries
  rwa [calls_restScore]

theorem tries_setParameters {config : Config} {parameters : Parameters}
    (bounded : parameters.WF) :
    (setParameters parameters : Operation ρ τ Unit).Tries config allowed := by
  apply Operation.tries_bind (Operation.tries_notice _ _)
  intro _
  exact Operation.tries_change fun session => ⟨rfl, rfl, rfl, .inr bounded⟩

theorem tries_enterParameters {config : Config} (speed brightness wait : String) :
    (enterParameters speed brightness wait : Operation ρ τ Unit).Tries config allowed := by
  rw [enterParameters]
  cases entered : Parameters.ofEntries speed brightness wait with
  | error error => exact Operation.tries_throw _
  | ok parameters => exact tries_setParameters (Parameters.wf_of_ofEntries entered)

theorem tries_setProgram {config : Config} (program : Program) :
    (setProgram program : Operation ρ τ Unit).Tries config allowed := by
  apply Operation.tries_bind (Operation.tries_notice _ _)
  intro _
  exact Operation.tries_change fun session => ⟨rfl, rfl, rfl, .inl rfl⟩

/-- The calls that show a reached robot. -/
def shownCalls (config : Config) : List Call :=
  [.setLed ⟨0, 0, 255⟩, .wait config.feedbackMillis]

/-- The calls of a request to connect: the attempt, how it is shown whether it reached the robot
or not, and the reset. -/
def connectCalls (config : Config) : List Call :=
  .connect :: .setLed ⟨255, 0, 0⟩ :: (shownCalls config ++ restCalls)

theorem tries_showUnreached (config : Config) (attempt : Nat) :
    (showUnreached config attempt : Act ρ τ Unit).Tries (· ∈ connectCalls config) := by
  apply Act.tries_bind (Act.tries_notice _ _)
  intro _
  apply Act.tries_bind
  · apply Act.tries_outcome
    apply Act.tries_call
    simp [connectCalls]
  · intro shown
    cases shown with
    | ok reply =>
        apply Act.tries_call
        simp [connectCalls, shownCalls]
    | error error => exact Act.tries_pure ()

theorem tries_welcome (config : Config) (attempt : Nat) :
    (welcome attempt : Operation ρ τ Unit).Tries config (· ∈ connectCalls config) := by
  apply Operation.tries_session_bind
  rintro session rfl
  apply Operation.tries_bind (Operation.tries_notice _ _)
  intro _
  apply Operation.tries_bind
  · apply Operation.tries_act
    apply Act.tries_bind
    · apply Act.tries_call
      simp [connectCalls, shownCalls]
    · intro _
      apply Act.tries_call
      simp [connectCalls, shownCalls]
  · intro _
    apply Operation.tries_bind
    · exact Operation.tries_change fun session => ⟨rfl, rfl, rfl, .inl rfl⟩
    · intro _
      apply Operation.tries_act
      apply tries_quiesceAndReport
      intro call inside
      simp [connectCalls, inside]

/-- The induction is on the attempts left. -/
theorem tries_connectFrom (config : Config) (remaining attempt : Nat) :
    (connectFrom remaining attempt : Operation ρ τ Bool).Tries config
      (· ∈ connectCalls config) := by
  induction remaining generalizing attempt with
  | zero =>
      apply Operation.tries_bind (Operation.tries_notice _ _)
      intro _
      exact Operation.tries_pure false
  | succ remaining ih =>
      have knocks : (do
          let reached : Bool ← Act.call .connect
          Act.emit (.connectAttempt attempt reached)
          pure reached : Act ρ τ Bool).Tries (· ∈ connectCalls config) := by
        apply Act.tries_bind (α := Bool)
        · have permitted : Call.connect ∈ connectCalls config := by simp [connectCalls]
          exact Act.tries_call permitted
        · intro reached
          exact Act.tries_bind (Act.tries_emit _) fun _ => Act.tries_pure _
      apply Operation.tries_bind (Operation.tries_act knocks)
      intro reached
      cases reached with
      | true => exact Operation.tries_bind (tries_welcome config attempt) fun _ =>
          Operation.tries_pure true
      | false =>
          apply Operation.tries_session_bind
          rintro session rfl
          exact Operation.tries_bind (Operation.tries_act (tries_showUnreached _ attempt))
            fun _ => ih (attempt + 1)

theorem tries_connect (config : Config) :
    (connect : Operation ρ τ Bool).Tries config (· ∈ connectCalls config) :=
  Operation.tries_session_bind fun _ _ => tries_connectFrom config _ 1

theorem tries_disconnect (config : Config) :
    (disconnect : Operation ρ τ Unit).Tries config (· ∈ restCalls ++ [.disconnect]) := by
  apply Operation.tries_session_bind
  intro session _
  split
  · apply Operation.tries_bind
    · apply Operation.tries_act
      apply tries_quiesceAndReport
      intro call inside
      exact List.mem_append_left _ inside
    · intro _
      apply Operation.tries_bind
      · apply Operation.tries_act
        apply Act.tries_call
        simp
      · intro _
        apply Operation.tries_bind
        · exact Operation.tries_change fun session => ⟨rfl, rfl, rfl, .inl rfl⟩
        · intro _
          exact Operation.tries_bind (Operation.tries_act (Act.tries_emit _)) fun _ =>
            Operation.tries_notice _ _
  · exact Operation.tries_pure ()

theorem tries_script {config : Config} {action : Act ρ τ Unit} {script : List Call}
    (follows : action.Follows (script.map .silent) fun _ => True) :
    (Operation.act action).Tries config (· ∈ script) := by
  apply Operation.tries_act
  apply follows.tries
  rw [Score.calls_silent]
  exact fun _ inside => inside

/-- The calls of the program. -/
def programCalls (session : Session) : List Call :=
  session.program.flatMap (Program.recipe session.holds session.parameters)

/-- A run of the program tries its calls and then those of the reset. Both are cut at a failure,
the one independently of the other. -/
theorem runProgram_leads (desk : Desk ρ τ) :
    ∃ ran rested, World.Leads (ran ++ rested) desk.world (Act.leaves runProgram desk).world ∧
      ran.calls <+: desk.session.programCalls ∧ rested.calls <+: restCalls := by
  obtain ⟨-, between, carries, further⟩ := leaves_runProgram desk
  rw [← carries.robot] at further
  refine ⟨_, _, carries.leads.trans further.leads, ?_, ?_⟩
  · have tried := (Score.tried_play
      (desk.session.program.score desk.session.holds desk.session.parameters)
      desk.world.robot).isPrefix_calls
    rwa [Program.score, Program.calls_scoreFrom] at tried
  · exact (Score.tried_play restScore between.robot).isPrefix_calls

theorem runProgram_leads_within (desk : Desk ρ τ) :
    desk.Leads (· ∈ desk.session.programCalls ++ restCalls) (Act.leaves runProgram desk) := by
  obtain ⟨ran, rested, leads, ranCalls, restedCalls⟩ := runProgram_leads desk
  have same := (leaves_runProgram desk).1
  refine ⟨?_, _, leads, ?_⟩
  · rw [same]
    exact .refl _
  · intro call inside
    rw [Journal.calls_append] at inside
    rcases List.mem_append.mp inside with early | late
    · exact List.mem_append_left _ (ranCalls.subset early)
    · exact List.mem_append_right _ (restedCalls.subset late)

variable [Ticker τ]

theorem tries_watch (config : Config) (tone : AlarmTone) (target : Monitor.Target)
    (settings : MonitorSettings) :
    (Operation.act (target.watch tone settings) : Operation ρ τ MonitorReport).Tries config
      (· ∈ target.calls ++ Monitor.alarm tone) := by
  apply Operation.tries_act
  apply Monitor.tries_watch
  · intro call inside
    exact List.mem_append_left _ inside
  · intro call inside
    exact List.mem_append_right _ inside

end Session

namespace Request

/-- The calls that a request can try in a session. -/
def calls (session : Session) : Request τ → List Call
  | .connect => Session.connectCalls session.config
  | .disconnect => Session.restCalls ++ [.disconnect]
  | .reset => Session.restCalls
  | .runProgram => session.programCalls ++ Session.restCalls
  | .monitorLight sensor _ =>
    Monitor.Target.calls (.light sensor) ++ Monitor.alarm session.alarmTone
  | .monitorTemperature _ => Monitor.Target.calls .temperature ++ Monitor.alarm session.alarmTone
  | .recordTemperature .. => [.temperature]
  | .lightAndSound top => Performance.lightAndSoundScript top
  | .dance => Performance.danceScript
  | .mixingItUp => Performance.mixingItUpScript
  | .enterParameters .. | .setParameters .. | .setProgram _ | .replaceTicker _ => []

/-- Every request goes through its own calls only. -/
theorem serve_leads [Ticker τ] (request : Request τ) (before : Desk ρ τ) :
    before.Leads (· ∈ request.calls before.session) (request.serve before) := by
  cases request with
  | connect => exact Session.tries_connect _ before rfl
  | disconnect => exact Session.tries_disconnect _ before rfl
  | reset =>
      exact Operation.tries_act (Session.tries_quiesceAndReport fun _ inside => inside) before rfl
  | enterParameters speed brightness wait =>
      exact Session.tries_enterParameters speed brightness wait before rfl
  | setParameters parameters bounded => exact Session.tries_setParameters bounded before rfl
  | setProgram program => exact Session.tries_setProgram program before rfl
  | runProgram => exact Session.runProgram_leads_within before
  | monitorLight sensor settings =>
      exact Session.tries_watch _ _ (.light sensor) settings before rfl
  | monitorTemperature settings => exact Session.tries_watch _ _ .temperature settings before rfl
  | recordTemperature count period =>
      refine Operation.tries_act (Recording.tries_withTicker ?_ period (.ofWord count)) before rfl
      exact List.mem_singleton_self _
  | lightAndSound top =>
      exact Session.tries_script (Performance.follows_lightAndSound top) before rfl
  | dance => exact Session.tries_script Performance.follows_dance before rfl
  | mixingItUp => exact Session.tries_script Performance.follows_mixingItUp before rfl
  | replaceTicker ticker => exact ⟨.refl _, [], ⟨(List.append_nil _).symm, .done _⟩, by simp⟩

/-- The induction over the requests. -/
theorem serveAll_leads [Ticker τ] (requests : List (Request τ)) (fresh : Desk ρ τ) :
    fresh.Leads (fun _ => True) (serveAll requests fresh) := by
  induction requests using List.reverseRecOn with
  | nil => exact .nowhere fresh
  | append_singleton requests last ih =>
      rw [serveAll_concat]
      exact ih.trans ((last.serve_leads _).weaken fun _ _ => trivial)

end Request

/-! ## Calls that do not concern the link -/

/-- A call that neither opens nor closes the link. -/
def Call.KeepsLink (call : Call) : Prop := call ≠ .connect ∧ call ≠ .disconnect

theorem Call.keepsLink_of_not_mem {script : List Call} (opens : .connect ∉ script)
    (closes : .disconnect ∉ script) : ∀ call ∈ script, call.KeepsLink := by
  intro call inside
  constructor
  · rintro rfl
    exact opens inside
  · rintro rfl
    exact closes inside

theorem Session.keepsLink_restCalls : ∀ call ∈ restCalls, call.KeepsLink := by
  apply Call.keepsLink_of_not_mem
  · simp [restCalls]
  · simp [restCalls]

theorem Session.keepsLink_programCalls (session : Session) :
    ∀ call ∈ session.programCalls, call.KeepsLink := by
  intro call inside
  rcases List.mem_flatMap.mp inside with ⟨command, -, among⟩
  refine Call.keepsLink_of_not_mem ?_ ?_ call among
  · cases command <;> simp [Program.recipe]
  · cases command <;> simp [Program.recipe]

namespace Performance

attribute [local simp] toneCalls colourCalls Session.restCalls

theorem keepsLink_lightAndSoundScript (top : UInt32) :
    ∀ call ∈ lightAndSoundScript top, call.KeepsLink := by
  apply Call.keepsLink_of_not_mem
  · simp [lightAndSoundScript]
  · simp [lightAndSoundScript]

theorem keepsLink_danceScript : ∀ call ∈ danceScript, call.KeepsLink := by
  apply Call.keepsLink_of_not_mem
  · simp [danceScript]
  · simp [danceScript]

theorem keepsLink_mixingItUpScript : ∀ call ∈ mixingItUpScript, call.KeepsLink := by
  apply Call.keepsLink_of_not_mem
  · simp [mixingItUpScript]
  · simp [mixingItUpScript]

end Performance

/-- A sample takes readings only. -/
theorem Monitor.isReading_calls (target : Target) :
    ∀ call ∈ target.calls, call.isReading = true := by
  rcases target with (_ | _ | _) | _ <;> simp [Target.calls, Call.isReading]

theorem Monitor.keepsLink_calls (target : Target) : ∀ call ∈ target.calls, call.KeepsLink := by
  apply Call.keepsLink_of_not_mem
  · rcases target with (_ | _ | _) | _ <;> simp [Target.calls]
  · rcases target with (_ | _ | _) | _ <;> simp [Target.calls]

theorem Monitor.keepsLink_alarm (tone : AlarmTone) : ∀ call ∈ alarm tone, call.KeepsLink := by
  apply Call.keepsLink_of_not_mem
  · simp [alarm]
  · simp [alarm]

namespace Request

/-- Only a request to connect or to disconnect concerns the link. -/
theorem keepsLink_calls {request : Request τ} (opens : request ≠ .connect)
    (closes : request ≠ .disconnect) (session : Session) :
    ∀ call ∈ request.calls session, call.KeepsLink := by
  cases request with
  | connect => exact absurd rfl opens
  | disconnect => exact absurd rfl closes
  | reset => exact Session.keepsLink_restCalls
  | runProgram =>
      exact List.forall_mem_append.mpr
        ⟨session.keepsLink_programCalls, Session.keepsLink_restCalls⟩
  | monitorLight sensor settings =>
      exact List.forall_mem_append.mpr
        ⟨Monitor.keepsLink_calls (.light sensor), Monitor.keepsLink_alarm _⟩
  | monitorTemperature settings =>
      exact List.forall_mem_append.mpr
        ⟨Monitor.keepsLink_calls .temperature, Monitor.keepsLink_alarm _⟩
  | recordTemperature count period => simp [calls, Call.KeepsLink]
  | lightAndSound top => exact Performance.keepsLink_lightAndSoundScript top
  | dance => exact Performance.keepsLink_danceScript
  | mixingItUp => exact Performance.keepsLink_mixingItUpScript
  | enterParameters | setParameters | setProgram | replaceTicker => simp [calls]

end Request

/-- From one desk to another the session's view of the link stays, and the link is left alone. -/
structure Desk.Stays (before after : Desk ρ τ) : Prop where
  connected : after.session.connected = before.session.connected
  calls : ∃ gain, World.Leads gain before.world after.world ∧ ∀ call ∈ gain.calls, call.KeepsLink

omit [Robot ρ] in
theorem Session.connected_enterParameters (speed brightness wait : String) (desk : Desk ρ τ) :
    (Act.leaves (enterParameters speed brightness wait) desk).session.connected =
      desk.session.connected := by
  rw [enterParameters]
  cases Parameters.ofEntries speed brightness wait <;> rfl

theorem Request.stays_serve [Ticker τ] {request : Request τ} (opens : request ≠ .connect)
    (closes : request ≠ .disconnect) (desk : Desk ρ τ) : desk.Stays (request.serve desk) := by
  obtain ⟨gain, leads, among⟩ := (request.serve_leads desk).calls
  refine ⟨?_, gain, leads, fun call tried => keepsLink_calls opens closes _ call (among call tried)⟩
  cases request with
  | connect => exact absurd rfl opens
  | disconnect => exact absurd rfl closes
  | enterParameters speed brightness wait =>
      exact Session.connected_enterParameters speed brightness wait desk
  | runProgram => exact congrArg Session.connected (Session.leaves_runProgram desk).1
  | setParameters | setProgram | replaceTicker => rfl
  | reset | lightAndSound | dance | mixingItUp | recordTemperature | monitorLight
  | monitorTemperature =>
      exact congrArg Session.connected (Operation.session_leaves_act _ desk)

end Rover
