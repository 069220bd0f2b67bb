import Mathlib.Data.List.Induction
import Rover.Proofs.Frame
import Rover.Proofs.Monitor.Ending

/-!
# What a watch shows

A watch does not look at the journal, so its course is the same whatever was announced. How many
whole seconds it took settles which samples it reports, as events and in its result.
-/

namespace Rover

/-! ## What an action adds -/

/-- What an action adds to the deeds of the journal. -/
def Act.deeds {ρ τ α : Type} (action : Act ρ τ α) (before : World ρ τ) : Journal :=
  (leaves action before).history.deeds.drop before.history.deeds.length

theorem Act.deeds_eq {ρ τ α : Type} {action : Act ρ τ α} {before : World ρ τ} {gain : Journal}
    (added : (leaves action before).history.deeds = before.history.deeds ++ gain) :
    action.deeds before = gain := by
  rw [deeds, added, List.drop_left]

/-- Whether an event reports a sample of a watch. -/
def Event.isMonitorSample : Event → Bool
  | .monitorSample .. => true
  | _ => false

/-- The samples of watches that are reported, in order. -/
def Journal.sampleReports (journal : Journal) : List Event :=
  journal.events.filter Event.isMonitorSample

@[simp] theorem Journal.sampleReports_append (left right : Journal) :
    (left ++ right).sampleReports = left.sampleReports ++ right.sampleReports := by
  simp only [sampleReports, events_append, List.filter_append]

namespace Monitor

variable {ρ τ : Type} [Robot ρ]

/-! ## The journal makes no difference -/

theorem blind_read (target : Target) : (target.read : Act ρ τ Sample).Blind := by
  cases target with
  | temperature => exact Act.blind_bind (Act.blind_call _) fun _ => Act.blind_pure _
  | light sensor =>
      cases sensor with
      | left | right => exact Act.blind_bind (Act.blind_call _) fun _ => Act.blind_pure _
      | both =>
          apply Act.blind_bind (Act.blind_call _)
          intro _
          exact Act.blind_bind (Act.blind_call _) fun _ => Act.blind_pure _

theorem blind_conclude (tone : AlarmTone) (kind : MonitorKind) (report : MonitorReport) :
    (conclude tone kind report : Act ρ τ Unit).Blind := by
  rw [conclude]
  cases report.status with
  | triggered =>
      apply Act.blind_bind (Act.blind_notice _ _)
      intro _
      apply Act.blind_bind (Act.blind_emit _)
      intro _
      apply Act.blind_bind (Act.blind_call _)
      intro _
      exact Act.blind_bind (Act.blind_call _) fun _ => Act.blind_call _
  | timedOut | cancelled => exact Act.blind_bind (Act.blind_notice _ _) fun _ => Act.blind_emit _

variable [Ticker τ]

theorem blind_second (target : Target) (number : Nat) :
    (second target number : Act ρ τ (Sample × Tick)).Blind := by
  apply Act.blind_bind (blind_read target)
  intro _
  apply Act.blind_bind (Act.blind_emit _)
  intro _
  exact Act.blind_bind (Act.blind_tick _) fun _ => Act.blind_pure _

theorem blind_watchFrom (target : Target) (settings : MonitorSettings) (remaining elapsed : Nat)
    (taken : Array Sample) :
    (watchFrom target.kind settings target.read remaining elapsed taken :
      Act ρ τ MonitorReport).Blind := by
  induction remaining generalizing elapsed taken with
  | zero => exact Act.blind_pure _
  | succ remaining ih =>
      rw [watchFrom_succ]
      apply Act.blind_bind (blind_second target _)
      rintro ⟨sample, tick⟩
      dsimp only
      split
      next => exact Act.blind_pure _
      next =>
        split
        next => exact Act.blind_pure _
        next => exact ih _ _

theorem worldAfter_preceded (target : Target) (earlier : Array Record) (start : World ρ τ)
    (passed : Nat) :
    worldAfter target (start.preceded earlier) passed =
      (worldAfter target start passed).preceded earlier := by
  induction passed with
  | zero => rfl
  | succ passed ih => rw [worldAfter, ih, (blind_second target _).leaves_preceded, worldAfter]

theorem course_preceded (target : Target) (earlier : Array Record) (start : World ρ τ)
    (passed : Nat) :
    course target (start.preceded earlier) passed = course target start passed := by
  rw [course, worldAfter_preceded, (blind_second target _).answer_preceded, course]

theorem course_bare (target : Target) (start : World ρ τ) (passed : Nat) :
    course target start.bare passed = course target start passed := by
  rw [← course_preceded target start.journal, start.preceded_bare]

theorem firstDecisive?_bare (target : Target) (settings : MonitorSettings) (start : World ρ τ) :
    firstDecisive? target settings start.bare = firstDecisive? target settings start := by
  simp only [firstDecisive?, course_bare]

theorem course_record (target : Target) (start : World ρ τ) (entry : Record) (passed : Nat) :
    course target (start.record entry) passed = course target start passed := by
  rw [← start.preceded_bare_record entry, course_preceded, course_bare]

theorem samples_record (target : Target) (start : World ρ τ) (entry : Record) (count : Nat) :
    samples target (start.record entry) count = samples target start count := by
  simp only [samples, course_record]

theorem firstDecisive?_record (target : Target) (settings : MonitorSettings) (start : World ρ τ)
    (entry : Record) :
    firstDecisive? target settings (start.record entry) = firstDecisive? target settings start := by
  simp only [firstDecisive?, course_record]

theorem samples_prefix (target : Target) (start : World ρ τ) {few many : Nat}
    (ordered : few ≤ many) : samples target start few <+: samples target start many := by
  obtain ⟨more, rfl⟩ := Nat.exists_eq_add_of_le ordered
  rw [samples, samples, List.range_add, List.filterMap_append]
  exact List.prefix_append _ _

/-! ## The result of a watch -/

variable {target : Target} {settings : MonitorSettings} {tone : AlarmTone} {before : World ρ τ}
  {report : MonitorReport}

/-- A watch that comes to its end reports what its seconds made of it. -/
theorem watchFrom_of_answer
    (answered : Act.answer (target.watch tone settings) before = .ok report) :
    ∃ between, watchFrom target.kind settings target.read settings.durationSeconds.toNat 0 #[]
      (started target settings before) = .ok report between := by
  cases ran : watchFrom target.kind settings target.read settings.durationSeconds.toNat 0 #[]
      (started target settings before) with
  | error error between =>
      simp only [Act.answer, watch_of_error ran] at answered
      cases answered
  | ok seen between =>
      obtain ⟨after, watched, -⟩ := watch_of_ok tone ran
      rw [Act.answer, watched, Played.result] at answered
      cases completed : ((closing tone target.kind seen).play between.robot).failure with
      | some error =>
          rw [completed] at answered
          cases answered
      | none =>
          rw [completed] at answered
          cases answered
          exact ⟨between, rfl⟩

/-- The seconds of a watch time out without a decisive one, or they are triggered or cancelled by
the first of them. -/
theorem report_cases {between : World ρ τ}
    (ran : watchFrom target.kind settings target.read settings.durationSeconds.toNat 0 #[]
      (started target settings before) = .ok report between) :
    (firstDecisive? target settings before = none ∧
      report = ⟨.timedOut, settings.durationSeconds.toNat,
        (samples target before settings.durationSeconds.toNat).toArray⟩) ∨
    ∃ last sample tick, firstDecisive? target settings before = some last ∧
      course target before last = .ok (sample, tick) ∧
      report =
        if sample.exceeds settings.range settings.threshold then
          ⟨.triggered, last + 1, (samples target before (last + 1)).toArray⟩
        else ⟨.cancelled, last, (samples target before (last + 1)).toArray⟩ := by
  rw [watchFrom_zero_eq, started, firstDecisive?_record] at ran
  cases first : firstDecisive? target settings before with
  | none =>
      rw [first] at ran
      cases ran
      rw [samples_record]
      exact .inl ⟨rfl, rfl⟩
  | some last =>
      rw [first] at ran
      simp only [resultAt, course_record, samples_record] at ran
      cases brings : course target before last with
      | error error =>
          rw [brings] at ran
          cases ran
      | ok both =>
          obtain ⟨sample, tick⟩ := both
          rw [brings] at ran
          refine .inr ⟨last, sample, tick, rfl, brings, ?_⟩
          dsimp only at ran
          split at ran
          next crossed =>
            cases ran
            rw [if_pos crossed]
          next uncrossed =>
            cases ran
            rw [if_neg uncrossed]

/-- A watch without a decisive second times out. -/
theorem answer_of_none (tone : AlarmTone) (first : firstDecisive? target settings before = none) :
    Act.answer (target.watch tone settings) before =
      .ok ⟨.timedOut, settings.durationSeconds.toNat,
        (samples target before settings.durationSeconds.toNat).toArray⟩ := by
  have ran := watchFrom_zero_eq target settings (started target settings before)
  simp only [started, firstDecisive?_record, first, samples_record] at ran
  obtain ⟨after, watched, -⟩ := watch_of_ok tone ran
  rw [Act.answer, watched, Played.result_of_none]
  rfl

theorem firstDecisive?_of_timedOut
    (answered : Act.answer (target.watch tone settings) before = .ok report)
    (timedOut : report.status = .timedOut) : firstDecisive? target settings before = none := by
  obtain ⟨between, ran⟩ := watchFrom_of_answer answered
  rcases report_cases ran with ⟨first, -⟩ | ⟨last, sample, tick, -, -, rfl⟩
  · exact first
  · split at timedOut <;> cases timedOut

/-! ## Whole seconds -/

/-- How many seconds of a watch bring a sample. -/
def wholeSeconds (target : Target) (settings : MonitorSettings) (before : World ρ τ) : Nat :=
  match firstDecisive? target settings before with
  | none => settings.durationSeconds.toNat
  | some last =>
    match course target before last with
    | .error _ => last
    | .ok _ => last + 1

theorem wholeSeconds_of_none (first : firstDecisive? target settings before = none) :
    wholeSeconds target settings before = settings.durationSeconds.toNat := by
  rw [wholeSeconds, first]

theorem wholeSeconds_of_ok {last : Nat} {both : Sample × Tick}
    (first : firstDecisive? target settings before = some last)
    (brings : course target before last = .ok both) :
    wholeSeconds target settings before = last + 1 := by
  simp only [wholeSeconds, first, brings]

theorem wholeSeconds_of_error {last : Nat} {error : DeviceError}
    (first : firstDecisive? target settings before = some last)
    (brings : course target before last = .error error) :
    wholeSeconds target settings before = last := by
  simp only [wholeSeconds, first, brings]

theorem wholeSeconds_record (target : Target) (settings : MonitorSettings) (start : World ρ τ)
    (entry : Record) :
    wholeSeconds target settings (start.record entry) = wholeSeconds target settings start := by
  simp only [wholeSeconds, firstDecisive?_record, course_record]

/-- The result of a watch has a sample of each whole second. -/
theorem samples_of_answer (answered : Act.answer (target.watch tone settings) before = .ok report) :
    report.samples.toList = samples target before (wholeSeconds target settings before) := by
  obtain ⟨between, ran⟩ := watchFrom_of_answer answered
  rcases report_cases ran with ⟨first, rfl⟩ | ⟨last, sample, tick, first, brings, rfl⟩
  · rw [wholeSeconds_of_none first]
  · rw [wholeSeconds_of_ok first brings]
    split <;> rfl

/-- The seconds of a watch leave their samples and no other event. -/
theorem deeds_watchFrom (target : Target) (settings : MonitorSettings) (start : World ρ τ) :
    let seconds : Act ρ τ MonitorReport :=
      watchFrom target.kind settings target.read settings.durationSeconds.toNat 0 #[]
    ∃ further : Journal, further.events = [] ∧
      Sampled target start (wholeSeconds target settings start) further
        (Act.leaves seconds start) := by
  intro seconds
  have settled : seconds start = _ := watchFrom_zero_eq target settings start
  cases first : firstDecisive? target settings start with
  | none =>
      simp only [first] at settled
      rw [Act.leaves_of_ok settled, wholeSeconds_of_none first]
      exact ⟨[], rfl, sampled_worldAfter (complete_of_none first)⟩
  | some last =>
      simp only [first] at settled
      cases brings : course target start last with
      | error error =>
          simp only [resultAt, brings] at settled
          obtain ⟨tried, -, deeds⟩ := deeds_of_second_error (Act.eq_error_of_answer brings)
          have whole := sampled_worldAfter (complete_of_some first)
          rw [Act.leaves_of_error settled, wholeSeconds_of_error first brings]
          exact ⟨_, Journal.events_map_ofAttempt tried, whole.followed_by deeds⟩
      | ok both =>
          have whole := sampled_worldAfter (complete_of_some_ok first brings)
          rw [wholeSeconds_of_ok first brings]
          refine ⟨[], rfl, ?_⟩
          simp only [resultAt, brings] at settled
          split at settled
          next => rwa [Act.leaves_of_ok settled]
          next => rwa [Act.leaves_of_ok settled]

theorem length_samples_wholeSeconds (target : Target) (settings : MonitorSettings)
    (before : World ρ τ) :
    (samples target before (wholeSeconds target settings before)).length =
      wholeSeconds target settings before := by
  obtain ⟨further, -, sampled⟩ := deeds_watchFrom target settings before
  exact sampled.length

/-- What the samples of the first seconds are reported as. -/
def reportsOf (target : Target) (taken : List Sample) : List Event :=
  taken.mapIdx fun passed sample => sampleReport target (passed + 1) sample

omit [Robot ρ] [Ticker τ] in
theorem reportsOf_concat (target : Target) (taken : List Sample) (sample : Sample) :
    reportsOf target (taken ++ [sample]) =
      reportsOf target taken ++ [sampleReport target (taken.length + 1) sample] := by
  simp [reportsOf, List.mapIdx_append]

omit [Robot ρ] [Ticker τ] in
theorem reportsOf_prefix (target : Target) {few many : List Sample} (begins : few <+: many) :
    reportsOf target few <+: reportsOf target many := by
  obtain ⟨more, rfl⟩ := begins
  rw [reportsOf, reportsOf, List.mapIdx_append]
  exact List.prefix_append _ _

omit [Robot ρ] [Ticker τ] in
theorem events_secondDeeds (target : Target) (number : Nat) (sample : Sample) :
    (secondDeeds target number sample).events = [sampleReport target number sample] := by
  have silent : Journal.events (target.calls.map fun call => .call call none) = [] := by
    induction target.calls with
    | nil => rfl
    | cons call rest ih => exact ih
  rw [secondDeeds, Journal.events_append, silent]
  rfl

omit [Robot ρ] [Ticker τ] in
theorem events_deedsOf (target : Target) (taken : List Sample) :
    (deedsOf target taken).events = reportsOf target taken := by
  induction taken using List.reverseRecOn with
  | nil => rfl
  | append_singleton taken sample ih =>
      rw [deedsOf_concat, Journal.events_append, ih, events_secondDeeds, reportsOf_concat]

omit [Robot ρ] [Ticker τ] in
theorem filter_reportsOf (target : Target) (taken : List Sample) :
    (reportsOf target taken).filter Event.isMonitorSample = reportsOf target taken := by
  rw [List.filter_eq_self]
  intro event inside
  obtain ⟨passed, below, rfl⟩ := List.mem_mapIdx.mp inside
  rfl

/-- How the ending of a watch is reported. -/
def endingOf (kind : MonitorKind) (report : MonitorReport) : Event :=
  match report.status with
  | .triggered => .alarmTriggered kind report.elapsedSeconds
  | .timedOut => .monitorTimedOut kind report.elapsedSeconds
  | .cancelled => .monitorCancelled kind report.elapsedSeconds

omit [Ticker τ] in
/-- Nothing else is reported at the end, since the alarm is calls alone. -/
theorem events_closing (tone : AlarmTone) (kind : MonitorKind) (report : MonitorReport)
    (robot : ρ) :
    ((closing tone kind report).play robot).records.events = [endingOf kind report] := by
  rw [closing, endingOf]
  cases report.status with
  | triggered =>
      rw [Score.play_report, Played.records_precededBy, Journal.events_append,
        Score.records_play_silent, Journal.events_map_ofAttempt]
      rfl
  | timedOut | cancelled => rfl

/-- What a watch closes with: nothing if its seconds failed, and else what reports their end. -/
def closed (tone : AlarmTone) (target : Target) :
    EStateM.Result DeviceError (World ρ τ) MonitorReport → Journal
  | .error .. => []
  | .ok report between => ((closing tone target.kind report).play between.robot).records

/-- A watch leaves the samples of its whole seconds, and then what it closes with. -/
theorem exists_deeds_watch (tone : AlarmTone) (settings : MonitorSettings) (target : Target)
    (before : World ρ τ) :
    ∃ further : Journal, further.events = [] ∧
      Act.deeds (target.watch tone settings) before =
        deedsOf target (samples target before (wholeSeconds target settings before)) ++ further ++
          closed tone target
            (watchFrom target.kind settings target.read settings.durationSeconds.toNat 0 #[]
              (started target settings before)) := by
  obtain ⟨further, silent, sampled⟩ :=
    deeds_watchFrom target settings (started target settings before)
  have announced : (started target settings before).history.deeds = before.history.deeds := by
    simp [started]
  have seconds := sampled.deeds
  rw [announced, started, wholeSeconds_record, samples_record, List.append_assoc,
    ← started] at seconds
  refine ⟨further, silent, ?_⟩
  cases ran : watchFrom target.kind settings target.read settings.durationSeconds.toNat 0 #[]
      (started target settings before) with
  | error error after =>
      have watched : target.watch tone settings before = .error error after := watch_of_error ran
      rw [Act.leaves_of_error ran, ← Act.leaves_of_error watched] at seconds
      rw [Act.deeds_eq seconds, closed, List.append_nil]
  | ok report between =>
      obtain ⟨after, watched, carries⟩ := watch_of_ok tone ran
      have added := carries.deeds
      rw [Act.leaves_of_ok ran] at seconds
      rw [← Played.leaves_of_result watched, seconds, List.append_assoc] at added
      exact Act.deeds_eq added

/-- The events of a watch: a sample of each whole second, and then how it ended. -/
theorem events_watch (tone : AlarmTone) (settings : MonitorSettings) (target : Target)
    (before : World ρ τ) :
    (Act.deeds (target.watch tone settings) before).events =
      reportsOf target (samples target before (wholeSeconds target settings before)) ++
        match watchFrom target.kind settings target.read settings.durationSeconds.toNat 0 #[]
          (started target settings before) with
        | .error .. => []
        | .ok report _ => [endingOf target.kind report] := by
  obtain ⟨further, silent, deeds⟩ := exists_deeds_watch tone settings target before
  rw [deeds, Journal.events_append, Journal.events_append, silent, List.append_nil, events_deedsOf]
  congr 1
  cases watchFrom target.kind settings target.read settings.durationSeconds.toNat 0 #[]
      (started target settings before) with
  | error error after => rfl
  | ok report between => exact events_closing tone target.kind report between.robot

/-- A watch reports a sample of each whole second. -/
theorem sampleReports_watch (tone : AlarmTone) (settings : MonitorSettings) (target : Target)
    (before : World ρ τ) :
    (Act.deeds (target.watch tone settings) before).sampleReports =
      reportsOf target (samples target before (wholeSeconds target settings before)) := by
  rw [Journal.sampleReports, events_watch, List.filter_append, filter_reportsOf]
  suffices unsampled : List.filter Event.isMonitorSample _ = [] by rw [unsampled, List.append_nil]
  split
  next => rfl
  next report between ran =>
    rw [endingOf]
    cases report.status <;> rfl

/-- The first decisive second brings a sample that crosses the threshold. -/
def Crosses (target : Target) (settings : MonitorSettings) (before : World ρ τ) (last : Nat)
    (sample : Sample) : Prop :=
  firstDecisive? target settings before = some last ∧
    (∃ tick, course target before last = .ok (sample, tick)) ∧
    sample.exceeds settings.range settings.threshold = true

theorem exists_crosses_of_triggered
    (answered : Act.answer (target.watch tone settings) before = .ok report)
    (triggered : report.status = .triggered) :
    ∃ last sample,
      Crosses target settings before last sample ∧ report.elapsedSeconds = last + 1 := by
  obtain ⟨between, ran⟩ := watchFrom_of_answer answered
  rcases report_cases ran with ⟨-, rfl⟩ | ⟨last, sample, tick, first, brings, rfl⟩
  · cases triggered
  · split at triggered
    next exceeds =>
      rw [if_pos exceeds]
      exact ⟨last, sample, ⟨first, ⟨tick, brings⟩, exceeds⟩, rfl⟩
    next => cases triggered

theorem Crosses.wholeSeconds_eq {last : Nat} {sample : Sample}
    (crosses : Crosses target settings before last sample) :
    wholeSeconds target settings before = last + 1 := by
  obtain ⟨first, ⟨tick, brings⟩, -⟩ := crosses
  exact wholeSeconds_of_ok first brings

/-- The seconds up to a crossing. -/
theorem Crosses.watchFrom_eq {last : Nat} {sample : Sample}
    (crosses : Crosses target settings before last sample) :
    ∃ between,
      watchFrom target.kind settings target.read settings.durationSeconds.toNat 0 #[]
          (started target settings before) =
        .ok ⟨.triggered, last + 1, (samples target before (last + 1)).toArray⟩ between := by
  obtain ⟨first, ⟨tick, brings⟩, exceeds⟩ := crosses
  rw [← firstDecisive?_record target settings before
    (.notice (announcement target settings))] at first
  rw [← course_record target before (.notice (announcement target settings))] at brings
  rw [watchFrom_zero_eq, started, first]
  simp only [resultAt, brings, exceeds, if_true, samples_record]
  exact ⟨_, rfl⟩

/-- The alarm is reported if the threshold is crossed, -/
theorem Crosses.alarm_mem {last : Nat} {sample : Sample}
    (crosses : Crosses target settings before last sample) (tone : AlarmTone) :
    .alarmTriggered target.kind (last + 1) ∈
      (Act.deeds (target.watch tone settings) before).events := by
  obtain ⟨between, ran⟩ := crosses.watchFrom_eq
  rw [events_watch, ran]
  exact List.mem_append_right _ (List.mem_singleton_self _)

/-- and only then. -/
theorem exists_crosses_of_alarm {kind : MonitorKind} {elapsed : Nat}
    (alarms : .alarmTriggered kind elapsed ∈
      (Act.deeds (target.watch tone settings) before).events) :
    ∃ last sample, Crosses target settings before last sample := by
  rw [events_watch] at alarms
  rcases List.mem_append.mp alarms with sampled | ended
  · obtain ⟨passed, below, same⟩ := List.mem_mapIdx.mp sampled
    cases same
  · split at ended
    next => cases ended
    next report between ran =>
      have same := List.mem_singleton.mp ended
      rcases report_cases ran with ⟨first, rfl⟩ | ⟨last, sample, tick, first, brings, rfl⟩
      · cases same
      · split at same
        next exceeds => exact ⟨last, sample, first, ⟨tick, brings⟩, exceeds⟩
        next => cases same

/-- A watch that crosses its threshold has its result unless a call of the alarm fails. -/
theorem Crosses.answer_eq {last : Nat} {sample : Sample}
    (crosses : Crosses target settings before last sample)
    (sounds : ∀ call ∈ alarm tone, ∀ error,
      (call, some error) ∉ (Act.deeds (target.watch tone settings) before).attempts) :
    Act.answer (target.watch tone settings) before =
      .ok ⟨.triggered, last + 1, (samples target before (last + 1)).toArray⟩ := by
  obtain ⟨between, ran⟩ := crosses.watchFrom_eq
  obtain ⟨after, watched, -⟩ := watch_of_ok tone ran
  obtain ⟨further, -, deeds⟩ := exists_deeds_watch tone settings target before
  rw [ran, closed] at deeds
  have tried := Score.tried_play_silent (alarm tone) between.robot
  cases completed : (Score.play ((alarm tone).map .silent) between.robot).failure with
  | none =>
      rw [Act.answer, watched, Played.result_of_none]
      exact completed
  | some error =>
      rw [completed] at tried
      obtain ⟨call, inside, failed⟩ := tried.exists_failed
      refine absurd ?_ (sounds call inside error)
      rw [deeds, Journal.attempts_append]
      exact List.mem_append_right _ failed

end Monitor

end Rover
