import Rover.Proofs.Monitor.Ending
import Rover.Proofs.Program.Recipe
import Rover.Proofs.Robot.Reported

/-!
# Actions that report their readings

An action reports its readings if from every world each reading on its way is followed by its
report, whatever fails. One rule for each way of putting actions together carries this from single
samples to the loops of recordings, programs and monitors.
-/

namespace Rover

variable {ρ τ α β : Type} [Robot ρ] {core : ρ → SimulatedRobot}

/-- At the far end of a link an exchange without readings has none to report. -/
theorem IsLink.reported_of_exchange (link : IsLink core) {start last : ρ} {gain : Journal}
    (exchange : Exchange start gain last) (silent : ∀ call ∈ gain.calls, call.isReading = false)
    (quiet : ∀ event ∈ gain.events, event.isSample = false) :
    SimulatedRobot.Reported (core start) gain (core last) := by
  induction exchange with
  | done => exact .done _
  | event happened _ ih =>
      obtain ⟨now, later⟩ := List.forall_mem_cons.mp quiet
      exact .event happened now (ih silent later)
  | @call tried robot _ _ _ ih =>
      obtain ⟨now, later⟩ := List.forall_mem_cons.mp silent
      have further := ih later quiet
      cases outcome : (Robot.perform tried robot).result with
      | ok reply =>
          rw [(link.accepts outcome).2] at further
          exact .silent tried now further
      | error error =>
          rw [link.refuses outcome] at further
          exact .refused tried error further

namespace World

/-- One world goes over into another, and every reading on the way is reported. -/
structure Reports (core : ρ → SimulatedRobot) (gain : Journal) (before after : World ρ τ) :
    Prop where
  deeds : after.history.deeds = before.history.deeds ++ gain
  reported : SimulatedRobot.Reported (core before.robot) gain (core after.robot)

namespace Reports

omit [Robot ρ] in
theorem trans {first second : Journal} {before between after : World ρ τ}
    (early : Reports core first before between) (late : Reports core second between after) :
    Reports core (first ++ second) before after where
  deeds := by rw [late.deeds, early.deeds, List.append_assoc]
  reported := early.reported.append late.reported

theorem of_leads (link : IsLink core) {gain : Journal} {before after : World ρ τ}
    (leads : Leads gain before after) (silent : ∀ call ∈ gain.calls, call.isReading = false)
    (quiet : ∀ event ∈ gain.events, event.isSample = false) : Reports core gain before after where
  deeds := leads.deeds
  reported := link.reported_of_exchange leads.robot silent quiet

omit [Robot ρ] in
theorem nowhere (world : World ρ τ) : Reports core [] world world :=
  ⟨(List.append_nil _).symm, .done _⟩

end Reports

end World

namespace Act

/-- From every world the action reports its readings, whether it succeeds or fails. -/
def Reports (core : ρ → SimulatedRobot) (action : Act ρ τ α) : Prop :=
  ∀ before, ∃ gain, World.Reports core gain before (leaves action before)

omit [Robot ρ] in
theorem reports_pure (value : α) : Reports core (pure value : Act ρ τ α) :=
  fun before => ⟨[], .nowhere before⟩

omit [Robot ρ] in
theorem reports_throw (error : DeviceError) : Reports core (throw error : Act ρ τ α) :=
  fun before => ⟨[], .nowhere before⟩

theorem reports_emit {event : Event} (other : event.isSample = false) :
    Reports core (emit event : Act ρ τ Unit) := by
  intro before
  exact ⟨_, (World.Leads.event event before).deeds, .event event other (.done _)⟩

theorem reports_notice (level : Level) (text : String) :
    Reports core (notice level text : Act ρ τ Unit) := by
  intro before
  exact ⟨[], (World.Leads.notice ⟨level, text⟩ before).deeds, .done _⟩

theorem reports_tick [Ticker τ] (period : Nat) :
    Reports core (tick period : Act ρ τ Tick) := by
  intro before
  rw [leaves_of_ok (tick_eq period before)]
  refine ⟨[], (World.Leads.tick _ before).deeds, ?_⟩
  rw [robot_afterTick]
  exact .done _

/-- A script without readings. -/
theorem reports_script (link : IsLink core) {action : Act ρ τ α} {script : List Call}
    {gives : α → Prop} (follows : action.Follows (script.map .silent) gives)
    (silent : ∀ call ∈ script, call.isReading = false) : Reports core action := by
  intro before
  refine ⟨_, .of_leads link (follows.carries before).leads ?_ ?_⟩
  · intro call inside
    have listed := Score.calls_play_subset (script.map .silent) before.robot inside
    rw [Score.calls_silent] at listed
    exact silent call listed
  · rw [Score.records_play_silent, Journal.events_map_ofAttempt]
    exact fun _ inside => absurd inside List.not_mem_nil

theorem reports_call (link : IsLink core) {request : Call} (silent : request.isReading = false) :
    Reports core (call request : Act ρ τ request.Reply) := by
  have follows : (call request : Act ρ τ request.Reply).Follows ([request].map .silent)
      fun _ => True := follows_call request
  exact reports_script link follows (List.forall_mem_singleton.mpr silent)

omit [Robot ρ] in
theorem reports_bind {action : Act ρ τ α} {next : α → Act ρ τ β} (reports : Reports core action)
    (continues : ∀ value, Reports core (next value)) : Reports core (action >>= next) := by
  intro before
  obtain ⟨gain, early⟩ := reports before
  cases ran : action before with
  | error error between =>
      rw [leaves_of_error ran] at early
      rw [leaves_bind_of_error ran]
      exact ⟨gain, early⟩
  | ok value between =>
      rw [leaves_of_ok ran] at early
      obtain ⟨further, late⟩ := continues value between
      rw [leaves_bind_of_ok ran]
      exact ⟨gain ++ further, early.trans late⟩

omit [Robot ρ] in
theorem reports_outcome {action : Act ρ τ α} (reports : Reports core action) :
    Reports core (outcome action) := by
  intro before
  rw [leaves_outcome]
  exact reports before

/-- A report follows its single cue from every world. -/
theorem Follows.report_eq {report : Act ρ τ Unit} {event : Event}
    (follows : report.Follows [.report event] fun _ => True) (before : World ρ τ) :
    ∃ after, report before = .ok () after ∧ after.robot = before.robot ∧
      after.history.deeds = before.history.deeds ++ [.event event] := by
  obtain ⟨after, carries, _, -, ran⟩ := follows before
  exact ⟨after, ran, carries.robot, carries.deeds⟩

/-- A call that is refused ends the action, and there is nothing to report. -/
theorem exists_reports_of_refused (link : IsLink core) {request : Call} {error : DeviceError}
    {before : World ρ τ} (outcome : (Robot.perform request before.robot).result = .error error)
    (next : request.Reply → Act ρ τ α) :
    ∃ gain, World.Reports core gain before (leaves (call request >>= next) before) := by
  rw [leaves_bind_of_error (call_of_error outcome)]
  refine ⟨_, (World.Leads.call_of_error outcome).deeds, ?_⟩
  rw [robot_afterCall, link.refuses outcome]
  exact .refused request error (.done _)

/-- One reading and then its report. -/
theorem reports_reading_bind (link : IsLink core) (sensor : Sensor)
    {event : sensor.call.Reply → Event} {report : sensor.call.Reply → Act ρ τ Unit}
    {next : sensor.call.Reply → Act ρ τ α}
    (follows : ∀ reply, (report reply).Follows [.report (event reply)] fun _ => True)
    (shows : ∀ reply other, Sensor.shownIn other (event reply) =
      if other = sensor then some (sensor.value reply) else none)
    (continues : ∀ reply, Reports core (next reply)) :
    Reports core (call sensor.call >>= fun reply => report reply >>= fun _ => next reply) := by
  intro before
  cases outcome : (Robot.perform sensor.call before.robot).result with
  | error error => exact exists_reports_of_refused link outcome _
  | ok reply =>
      obtain ⟨answered, moved⟩ := link.accepts outcome
      obtain ⟨between, ran, robot, deeds⟩ :=
        (follows reply).report_eq (afterCall (Robot.perform sensor.call before.robot) before)
      obtain ⟨further, late⟩ := continues reply between
      rw [leaves_bind_of_ok (call_of_ok outcome), leaves_bind_of_ok ran]
      refine ⟨.call sensor.call none :: .event (event reply) :: further, ?_, ?_⟩
      · rw [late.deeds, deeds, (World.Leads.call_of_ok outcome).deeds]
        simp
      · have later := late.reported
        rw [robot, robot_afterCall, moved] at later
        refine .single sensor (event reply) (fun other => ?_) later
        rw [shows, Sensor.value_of_answered answered]

/-- The readings of both lights and then their report. -/
theorem reports_lights_bind (link : IsLink core) {event : (left right : Int32) → Event}
    {report : (left right : Int32) → Act ρ τ Unit} {next : (left right : Int32) → Act ρ τ α}
    (follows : ∀ left right, (report left right).Follows [.report (event left right)] fun _ => True)
    (shows : ∀ left right, Sensor.temperature.shownIn (event left right) = none ∧
      Sensor.left.shownIn (event left right) = some (Sensor.left.value left) ∧
      Sensor.right.shownIn (event left right) = some (Sensor.right.value right))
    (continues : ∀ left right, Reports core (next left right)) :
    Reports core (do
      let left ← call .leftLight
      let right ← call .rightLight
      report left right
      next left right) := by
  intro before
  cases outcome : (Robot.perform .leftLight before.robot).result with
  | error error => exact exists_reports_of_refused link outcome _
  | ok left =>
      obtain ⟨leftAnswered, leftMoved⟩ := link.accepts outcome
      have leftDeeds := (World.Leads.call_of_ok outcome).deeds
      rw [leaves_bind_of_ok (call_of_ok outcome)]
      generalize middle : afterCall (Robot.perform .leftLight before.robot) before = between
      rw [middle] at leftDeeds
      have far : core between.robot = (core before.robot).accept .leftLight := by
        rw [← middle, robot_afterCall, leftMoved]
      cases outcome : (Robot.perform .rightLight between.robot).result with
      | error error =>
          rw [leaves_bind_of_error (call_of_error outcome)]
          refine ⟨[.call .leftLight none, .call .rightLight (some error)], ?_, ?_⟩
          · rw [(World.Leads.call_of_error outcome).deeds, leftDeeds]
            simp
          · rw [robot_afterCall, link.refuses outcome, far]
            exact .torn error (.done _)
      | ok right =>
          obtain ⟨rightAnswered, rightMoved⟩ := link.accepts outcome
          rw [far] at rightAnswered rightMoved
          obtain ⟨closing, ran, robot, deeds⟩ := (follows left right).report_eq
            (afterCall (Robot.perform .rightLight between.robot) between)
          obtain ⟨further, late⟩ := continues left right closing
          rw [leaves_bind_of_ok (call_of_ok outcome), leaves_bind_of_ok ran]
          refine ⟨.call .leftLight none :: .call .rightLight none ::
            .event (event left right) :: further, ?_, ?_⟩
          · rw [late.deeds, deeds, (World.Leads.call_of_ok outcome).deeds, leftDeeds]
            simp
          · have later := late.reported
            rw [robot, robot_afterCall, rightMoved] at later
            have leftValue : Sensor.left.value left = Sensor.left.reading (core before.robot) 0 :=
              Sensor.value_of_answered leftAnswered
            have rightValue : Sensor.right.value right =
                Sensor.right.reading ((core before.robot).accept .leftLight) 0 :=
              Sensor.value_of_answered rightAnswered
            rw [Sensor.reading_accept, if_neg (by decide)] at rightValue
            obtain ⟨temperature, shownLeft, shownRight⟩ := shows left right
            refine .both (event left right) (fun other => ?_) later
            cases other with
            | temperature => exact temperature
            | left => rw [shownLeft, leftValue, if_neg (by decide)]
            | right => rw [shownRight, rightValue, if_neg (by decide)]

end Act

namespace Recording

theorem reports_sampleFrom (link : IsLink core) {pace : Act ρ τ Bool} (paced : pace.Reports core)
    (remaining : Nat) (taken : Array Binary64) :
    (sampleFrom pace remaining taken).Reports core := by
  induction remaining generalizing taken with
  | zero => exact Act.reports_pure _
  | succ remaining ih =>
      rw [sampleFrom_succ]
      apply Act.reports_reading_bind link .temperature
      · intro celsius
        exact Act.follows_notice_bind (Act.follows_emit _)
      · intro celsius other
        cases other <;> rfl
      · intro celsius
        refine Act.reports_bind paced fun goesOn => ?_
        cases goesOn with
        | true => exact ih _
        | false => exact Act.reports_pure _

theorem reports_take (link : IsLink core) {pace : Act ρ τ Bool} (paced : pace.Reports core)
    (period : Nat) (requested : Count) : (take pace period requested).Reports core := by
  refine Act.reports_bind (Act.reports_notice _ _) fun _ => ?_
  refine Act.reports_bind (reports_sampleFrom link paced requested #[]) fun samples => ?_
  dsimp only
  split
  · exact Act.reports_bind (Act.reports_emit rfl) fun _ => Act.reports_pure _
  · exact Act.reports_pure _

theorem reports_withTicker (link : IsLink core) [Ticker τ] (period : Nat) (requested : Count) :
    (withTicker period requested : Act ρ τ Series).Reports core :=
  reports_take link (Act.reports_bind (Act.reports_tick _) fun _ => Act.reports_pure _)
    period requested

theorem reports_withWaits (link : IsLink core) (period : Nat) (requested : Count) :
    (withWaits period requested : Act ρ τ Series).Reports core :=
  reports_take link (Act.reports_bind (Act.reports_call link rfl) fun _ => Act.reports_pure _)
    period requested

end Recording

namespace Program

theorem reports_perform (link : IsLink core) (holds : Holds) (parameters : Parameters)
    (command : Command) : (perform holds parameters command : Act ρ τ Unit).Reports core := by
  refine Act.reports_bind (Act.reports_notice _ _) fun _ => ?_
  cases command with
  | placeholder => exact Act.reports_notice _ _
  | songAndDance =>
      apply Act.reports_script link (follows_songAndDance holds parameters)
      simp [recipe, Call.isReading]
  | ledOn =>
      apply Act.reports_script link (follows_ledCycles holds parameters)
      simp only [recipe, List.mem_flatten, List.mem_replicate]
      rintro call ⟨cycle, ⟨-, rfl⟩, inside⟩
      simp only [List.mem_cons, List.not_mem_nil, or_false] at inside
      rcases inside with rfl | rfl | rfl | rfl | rfl | rfl <;> rfl
  | getTemperature =>
      refine Act.reports_bind (Recording.reports_withWaits link _ _) fun series => ?_
      cases series.average? with
      | none => exact Act.reports_pure _
      | some average => exact Act.reports_notice _ _
  | done => exact Act.reports_pure _
  | moveForward | moveBackward | stopMotors | turnRight | turnLeft | wait | ledOff =>
      exact Act.reports_call link rfl

theorem isSample_report (index : Nat) (command : Command) :
    (report index command).isSample = false := by
  rw [report]
  split <;> rfl

theorem reports_runFrom (link : IsLink core) (holds : Holds) (parameters : Parameters)
    (program : Program) (index : Nat) :
    (runFrom holds parameters program index : Act ρ τ (List Command)).Reports core := by
  induction program generalizing index with
  | nil => exact Act.reports_pure _
  | cons command rest ih =>
      refine Act.reports_bind (reports_perform link holds parameters command) fun _ => ?_
      refine Act.reports_bind (Act.reports_emit (isSample_report index command)) fun _ => ?_
      exact Act.reports_bind (ih (index + 1)) fun _ => Act.reports_pure _

theorem reports_run (link : IsLink core) (holds : Holds) (parameters : Parameters)
    (program : Program) :
    (run holds parameters program : Act ρ τ (List Command)).Reports core := by
  cases program with
  | nil => exact Act.reports_pure _
  | cons command rest =>
      exact Act.reports_bind (Act.reports_notice _ _) fun _ => reports_runFrom link _ _ _ 0

end Program

namespace Monitor

variable [Ticker τ]

theorem reports_second (link : IsLink core) (target : Target) (number : Nat) :
    (second target number : Act ρ τ (Sample × Tick)).Reports core := by
  have closes : ∀ sample : Sample, (do
      let tick ← Act.tick oneSecond
      pure (sample, tick) : Act ρ τ (Sample × Tick)).Reports core := by
    intro sample
    exact Act.reports_bind (Act.reports_tick _) fun _ => Act.reports_pure _
  cases target with
  | temperature =>
      simp only [second, Target.read, readTemperature, bind_assoc, pure_bind]
      apply Act.reports_reading_bind link .temperature
      · intro celsius
        exact Act.follows_emit _
      · intro celsius other
        cases other <;> rfl
      · intro celsius
        exact closes (.temperature celsius)
  | light sensor =>
      cases sensor with
      | left =>
          simp only [second, Target.read, readLight, bind_assoc, pure_bind]
          apply Act.reports_reading_bind link .left
          · intro level
            exact Act.follows_emit _
          · intro level other
            cases other <;> rfl
          · intro level
            exact closes (.light (some level) none)
      | right =>
          simp only [second, Target.read, readLight, bind_assoc, pure_bind]
          apply Act.reports_reading_bind link .right
          · intro level
            exact Act.follows_emit _
          · intro level other
            cases other <;> rfl
          · intro level
            exact closes (.light none (some level))
      | both =>
          simp only [second, Target.read, readLight, bind_assoc, pure_bind]
          apply Act.reports_lights_bind link
          · intro left right
            exact Act.follows_emit _
          · intro left right
            exact ⟨rfl, rfl, rfl⟩
          · intro left right
            exact closes (.light (some left) (some right))

theorem reports_watchFrom (link : IsLink core) (target : Target) (settings : MonitorSettings)
    (remaining elapsed : Nat) (taken : Array Sample) :
    (watchFrom target.kind settings target.read remaining elapsed taken :
      Act ρ τ MonitorReport).Reports core := by
  induction remaining generalizing elapsed taken with
  | zero => exact Act.reports_pure _
  | succ remaining ih =>
      rw [watchFrom_succ]
      refine Act.reports_bind (reports_second link target (elapsed + 1)) fun (sample, tick) => ?_
      dsimp only
      split
      · exact Act.reports_pure _
      · split
        · exact Act.reports_pure _
        · exact ih _ _

omit [Ticker τ] in
theorem reports_conclude (link : IsLink core) (tone : AlarmTone) (kind : MonitorKind)
    (report : MonitorReport) : (conclude tone kind report : Act ρ τ Unit).Reports core := by
  rw [conclude]
  cases report.status with
  | triggered =>
      refine Act.reports_bind (Act.reports_notice _ _) fun _ => ?_
      refine Act.reports_bind (Act.reports_emit rfl) fun _ => ?_
      apply Act.reports_script link (follows_soundAlarm tone)
      simp [alarm, Call.isReading]
  | timedOut | cancelled =>
      exact Act.reports_bind (Act.reports_notice _ _) fun _ => Act.reports_emit rfl

theorem reports_watch (link : IsLink core) (tone : AlarmTone) (settings : MonitorSettings)
    (target : Target) : (target.watch tone settings : Act ρ τ MonitorReport).Reports core := by
  have watches : (watch tone target.kind settings target.read :
      Act ρ τ MonitorReport).Reports core := by
    refine Act.reports_bind (Act.reports_notice _ _) fun _ => ?_
    refine Act.reports_bind (reports_watchFrom link target settings _ 0 #[]) fun report => ?_
    exact Act.reports_bind (reports_conclude link tone target.kind report) fun _ =>
      Act.reports_pure _
  cases target <;> exact watches

end Monitor

end Rover
