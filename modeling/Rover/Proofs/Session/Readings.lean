import Rover.Proofs.Reports
import Rover.Proofs.Session.Calls

/-!
# Readings of a session

Whatever an operator asks for, and however it ends, the reports of a session show the readings of
the sensors one by one in the order of their scripts.
-/

namespace Rover

variable {ρ τ α β : Type} [Robot ρ] {core : ρ → SimulatedRobot}

namespace Operation

/-- From every desk the operation reports its readings. -/
def Reports (core : ρ → SimulatedRobot) (operation : Operation ρ τ α) : Prop :=
  ∀ before : Desk ρ τ, ∃ gain,
    World.Reports core gain before.world (Act.leaves operation before).world

omit [Robot ρ] in
theorem reports_pure (value : α) : Reports core (pure value : Operation ρ τ α) :=
  fun before => ⟨[], .nowhere before.world⟩

omit [Robot ρ] in
theorem reports_throw (error : Error) : Reports core (throw error : Operation ρ τ α) :=
  fun before => ⟨[], .nowhere before.world⟩

omit [Robot ρ] in
theorem reports_change (update : Session → Session) :
    Reports core (change update : Operation ρ τ Unit) :=
  fun before => ⟨[], .nowhere before.world⟩

omit [Robot ρ] in
theorem reports_act {action : Act ρ τ α} (reports : action.Reports core) :
    Reports core (act action) := by
  intro before
  rw [leaves_act]
  exact reports before.world

theorem reports_notice (level : Level) (text : String) :
    Reports core (notice level text : Operation ρ τ Unit) :=
  reports_act (Act.reports_notice level text)

omit [Robot ρ] in
theorem reports_bind {operation : Operation ρ τ α} {next : α → Operation ρ τ β}
    (reports : Reports core operation) (continues : ∀ value, Reports core (next value)) :
    Reports core (operation >>= next) := by
  intro before
  obtain ⟨gain, early⟩ := reports before
  cases ran : operation before with
  | error error between =>
      rw [Act.leaves_of_error ran] at early
      rw [Act.leaves_bind_of_error ran]
      exact ⟨gain, early⟩
  | ok value between =>
      rw [Act.leaves_of_ok ran] at early
      obtain ⟨further, late⟩ := continues value between
      rw [Act.leaves_bind_of_ok ran]
      exact ⟨gain ++ further, early.trans late⟩

omit [Robot ρ] in
theorem reports_session_bind {next : Session → Operation ρ τ α}
    (continues : ∀ session, Reports core (next session)) :
    Reports core (Operation.session >>= next) :=
  fun before => continues before.session before

end Operation

namespace Session

theorem reports_quiesce (link : IsLink core) : (Act.quiesce : Act ρ τ Unit).Reports core := by
  apply Act.reports_script link follows_quiesce
  simp [restCalls, Call.isReading]

theorem reports_quiesceAndReport (link : IsLink core) :
    (quiesceAndReport : Act ρ τ Unit).Reports core :=
  Act.reports_bind (reports_quiesce link) fun _ => Act.reports_emit rfl

theorem reports_welcome (link : IsLink core) (attempt : Nat) :
    (welcome attempt : Operation ρ τ Unit).Reports core := by
  refine Operation.reports_session_bind fun session => ?_
  refine Operation.reports_bind (Operation.reports_notice _ _) fun _ => ?_
  refine Operation.reports_bind (Operation.reports_act ?_) fun _ => ?_
  · exact Act.reports_bind (Act.reports_call link rfl) fun _ => Act.reports_call link rfl
  · refine Operation.reports_bind (Operation.reports_change _) fun _ => ?_
    exact Operation.reports_act (reports_quiesceAndReport link)

theorem reports_showUnreached (link : IsLink core) (config : Config) (attempt : Nat) :
    (showUnreached config attempt : Act ρ τ Unit).Reports core := by
  refine Act.reports_bind (Act.reports_notice _ _) fun _ => ?_
  refine Act.reports_bind (Act.reports_outcome (Act.reports_call link rfl)) fun shown => ?_
  cases shown with
  | ok reply => exact Act.reports_call link rfl
  | error error => exact Act.reports_pure _

theorem reports_connectFrom (link : IsLink core) (remaining attempt : Nat) :
    (connectFrom remaining attempt : Operation ρ τ Bool).Reports core := by
  induction remaining generalizing attempt with
  | zero => exact Operation.reports_bind (Operation.reports_notice _ _) fun _ =>
      Operation.reports_pure _
  | succ remaining ih =>
      refine Operation.reports_bind (Operation.reports_act ?_) fun reached => ?_
      · refine Act.reports_bind (α := Bool) (Act.reports_call link rfl) fun reached => ?_
        exact Act.reports_bind (Act.reports_emit rfl) fun _ => Act.reports_pure _
      · cases reached with
        | true => exact Operation.reports_bind (reports_welcome link attempt) fun _ =>
            Operation.reports_pure _
        | false =>
            refine Operation.reports_session_bind fun session => ?_
            exact Operation.reports_bind (Operation.reports_act (reports_showUnreached link _ _))
              fun _ => ih (attempt + 1)

theorem reports_connect (link : IsLink core) :
    (connect : Operation ρ τ Bool).Reports core :=
  Operation.reports_session_bind fun _ => reports_connectFrom link _ 1

theorem reports_disconnect (link : IsLink core) :
    (disconnect : Operation ρ τ Unit).Reports core := by
  refine Operation.reports_session_bind fun session => ?_
  split
  · refine Operation.reports_bind (Operation.reports_act (reports_quiesceAndReport link))
      fun _ => ?_
    refine Operation.reports_bind (Operation.reports_act (Act.reports_call link rfl)) fun _ => ?_
    refine Operation.reports_bind (Operation.reports_change _) fun _ => ?_
    exact Operation.reports_bind (Operation.reports_act (Act.reports_emit rfl)) fun _ =>
      Operation.reports_notice _ _
  · exact Operation.reports_pure _

theorem reports_runProgram (link : IsLink core) :
    (runProgram : Operation ρ τ (List Command)).Reports core := by
  refine Operation.reports_session_bind fun session => Operation.reports_act ?_
  refine Act.reports_bind (Act.reports_outcome (Program.reports_run link _ _ _)) fun ran => ?_
  refine Act.reports_bind (Act.reports_outcome (reports_quiesceAndReport link)) fun rested => ?_
  cases ran with
  | ok trace =>
      cases rested with
      | ok => exact Act.reports_pure _
      | error error => exact Act.reports_throw _
  | error error =>
      refine Act.reports_bind (Act.reports_notice _ _) fun _ => ?_
      cases rested with
      | ok => exact Act.reports_throw _
      | error second => exact Act.reports_bind (Act.reports_notice _ _) fun _ =>
          Act.reports_throw _

theorem reports_setParameters (parameters : Parameters) :
    (setParameters parameters : Operation ρ τ Unit).Reports core :=
  Operation.reports_bind (Operation.reports_notice _ _) fun _ => Operation.reports_change _

theorem reports_enterParameters (speed brightness wait : String) :
    (enterParameters speed brightness wait : Operation ρ τ Unit).Reports core := by
  rw [enterParameters]
  cases Parameters.ofEntries speed brightness wait with
  | error error => exact Operation.reports_throw _
  | ok parameters => exact reports_setParameters parameters

theorem reports_setProgram (program : Program) :
    (setProgram program : Operation ρ τ Unit).Reports core :=
  Operation.reports_bind (Operation.reports_notice _ _) fun _ => Operation.reports_change _

end Session

theorem Call.silent_of_not_mem {script : List Call}
    (among : ∀ sensor : Sensor, sensor.call ∉ script) :
    ∀ call ∈ script, call.isReading = false := by
  intro call inside
  cases reads : call.isReading with
  | false => rfl
  | true =>
      obtain ⟨sensor, rfl⟩ := Sensor.exists_of_isReading reads
      exact absurd inside (among sensor)

namespace Performance

attribute [local simp] Sensor.call toneCalls colourCalls Session.restCalls

theorem silent_lightAndSoundScript (top : UInt32) :
    ∀ call ∈ lightAndSoundScript top, call.isReading = false := by
  apply Call.silent_of_not_mem
  intro sensor
  cases sensor <;> simp [lightAndSoundScript]

theorem silent_danceScript : ∀ call ∈ danceScript, call.isReading = false := by
  apply Call.silent_of_not_mem
  intro sensor
  cases sensor <;> simp [danceScript]

theorem silent_mixingItUpScript : ∀ call ∈ mixingItUpScript, call.isReading = false := by
  apply Call.silent_of_not_mem
  intro sensor
  cases sensor <;> simp [mixingItUpScript]

end Performance

namespace Request

variable [Ticker τ]

/-- Every request reports its readings. -/
theorem serve_reports (link : IsLink core) (request : Request τ) (before : Desk ρ τ) :
    ∃ gain, World.Reports core gain before.world (request.serve before).world := by
  cases request with
  | connect => exact Session.reports_connect link before
  | disconnect => exact Session.reports_disconnect link before
  | reset => exact Operation.reports_act (Session.reports_quiesceAndReport link) before
  | enterParameters speed brightness wait =>
      exact Session.reports_enterParameters speed brightness wait before
  | setParameters parameters _ => exact Session.reports_setParameters parameters before
  | setProgram program => exact Session.reports_setProgram program before
  | runProgram => exact Session.reports_runProgram link before
  | monitorLight sensor settings =>
      exact Operation.reports_act (Monitor.reports_watch link _ settings (.light sensor)) before
  | monitorTemperature settings =>
      exact Operation.reports_act (Monitor.reports_watch link _ settings .temperature) before
  | recordTemperature count period =>
      exact Operation.reports_act (Recording.reports_withTicker link period (.ofWord count)) before
  | lightAndSound top =>
      exact Operation.reports_act (Act.reports_script link (Performance.follows_lightAndSound top)
        (Performance.silent_lightAndSoundScript top)) before
  | dance =>
      exact Operation.reports_act (Act.reports_script link Performance.follows_dance
        Performance.silent_danceScript) before
  | mixingItUp =>
      exact Operation.reports_act (Act.reports_script link Performance.follows_mixingItUp
        Performance.silent_mixingItUpScript) before
  | replaceTicker ticker => exact ⟨[], (List.append_nil _).symm, .done _⟩

/-- The induction over the requests. -/
theorem serveAll_reports (link : IsLink core) (requests : List (Request τ)) (fresh : Desk ρ τ) :
    ∃ gain, World.Reports core gain fresh.world (serveAll requests fresh).world := by
  induction requests using List.reverseRecOn with
  | nil => exact ⟨[], .nowhere fresh.world⟩
  | append_singleton requests last ih =>
      obtain ⟨early, reports⟩ := ih
      obtain ⟨late, further⟩ := serve_reports link last (serveAll requests fresh)
      rw [serveAll_concat]
      exact ⟨early ++ late, reports.trans further⟩

/-- Through any requests in any order, whatever fails and whatever is cancelled, the reports of a
sensor show its readings from the first one on, in the order of its script, each once. There is
one report for every accepted call to the sensor, and nothing else moves its script. Only of the
left lights some have no report: those after which the right light failed to be sampled, which are
counted by the left lights sampled before them. -/
theorem readings_reported_in_order (link : IsLink core) (requests : List (Request τ))
    (fresh : Desk ρ τ) :
    let after := serveAll requests fresh
    let first := core fresh.world.robot
    ∃ gain, World.Leads gain fresh.world after.world ∧
      (∀ sensor : Sensor, sensor ≠ .left →
        gain.events.filterMap sensor.shownIn =
          (List.range (gain.accepted.count sensor.call)).map (sensor.reading first)) ∧
      gain.events.filterMap Sensor.left.shownIn =
        ((List.range (gain.accepted.count .leftLight)).filter (· ∉ gain.unreported 0)).map
          (Sensor.left.reading first) ∧
      (∀ number, number ∈ gain.unreported 0 ↔
        ∃ (early : Journal) (error : DeviceError) (late : Journal),
          gain = early ++ .call .leftLight none :: .call .rightLight (some error) :: late ∧
            number = early.accepted.count .leftLight) ∧
      (∀ event ∈ gain.events, event.isSample = true →
        ∃ (sensor : Sensor) (value : Binary64), sensor.shownIn event = some value) ∧
      ∀ (sensor : Sensor) (number : Nat), sensor.reading (core after.world.robot) number =
        sensor.reading first (gain.accepted.count sensor.call + number) := by
  intro after first
  obtain ⟨gain, reports⟩ := serveAll_reports link requests fresh
  obtain ⟨-, gain', leads, -⟩ := serveAll_leads requests fresh
  obtain rfl : gain' = gain := List.append_cancel_left (leads.deeds.symm.trans reports.deeds)
  have shown : ∀ sensor : Sensor, sensor.ShownFrom (sensor.reading first) 0 gain' :=
    fun sensor => reports.reported.shownFrom fun number => by rw [Nat.zero_add]
  refine ⟨gain', leads, ?_, ?_, ?_, fun _ => reports.reported.exists_shownIn, ?_⟩
  · intro sensor other
    have whole : sensor.unreported 0 gain' = [] := by
      cases sensor with
      | left => exact absurd rfl other
      | temperature | right => rfl
    rw [(shown sensor).filterMap_eq_map whole, List.range_eq_range']
  · have whole := shown .left
    rwa [Sensor.ShownFrom, ← List.range_eq_range'] at whole
  · intro number
    rw [Journal.mem_unreported_iff]
    simp only [Nat.zero_add]
  · intro sensor number
    rw [link.core_exchange leads.robot, Sensor.reading_foldl_accept]

/-- A dim room that gets brighter, with a link on which the second call is lost. -/
def lostRight : Desk (Unreliable SimulatedRobot) ManualTicker where
  session := { Session.standard with connected := true }
  world := {
    robot := {
      robot := { connected := true, leftLight := ⟨[7, 8], 20⟩, rightLight := ⟨[9], 20⟩ }
      faults := [⟨1, .readFailed "right_light"⟩] }
    ticker := {} }

/-- The first left light is lost with the right one. The right script is none the further for
it. -/
theorem readings_after_lost_right :
    let after := serveAll [.monitorLight .both ⟨.maximum, 50, 1⟩,
      .monitorLight .both ⟨.maximum, 50, 2⟩] lostRight
    after.world.history.events.filterMap Sensor.left.shownIn = [.ofInt 8, .ofInt 8] ∧
      after.world.history.events.filterMap Sensor.right.shownIn = [.ofInt 9, .ofInt 9] ∧
      ∃ gain, World.Leads gain lostRight.world after.world ∧
        gain.events.filterMap Sensor.right.shownIn =
          (List.range (gain.accepted.count Sensor.right.call)).map
            (Sensor.right.reading lostRight.world.robot.robot) := by
  intro after
  obtain ⟨gain, leads, reports, -⟩ := readings_reported_in_order isLink_id.unreliable
    [.monitorLight .both ⟨.maximum, 50, 1⟩, .monitorLight .both ⟨.maximum, 50, 2⟩] lostRight
  exact ⟨by decide +kernel, by decide +kernel, gain, leads, reports .right (by decide)⟩

end Request

end Rover
