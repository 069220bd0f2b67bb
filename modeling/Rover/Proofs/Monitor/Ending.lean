import Rover.Proofs.Exchange
import Rover.Proofs.Monitor.Course

/-!
# How a watch ends

The first decisive second of the course settles the whole outcome of a watch: its result, its
samples, and everything that it leaves in the journal, the alarm included.
-/

namespace Rover.Monitor

variable {ρ τ : Type} [Robot ρ]

/-- The calls of an alarm. -/
def alarm (tone : AlarmTone) : List Call :=
  [.noteOn tone.hertz, .wait tone.millis, .noteOff]

/-- How an ending is reported. Only a crossing is followed by the alarm. -/
def closing (tone : AlarmTone) (kind : MonitorKind) (report : MonitorReport) : Score :=
  match report.status with
  | .triggered =>
    .report (.alarmTriggered kind report.elapsedSeconds) :: (alarm tone).map .silent
  | .timedOut => [.report (.monitorTimedOut kind report.elapsedSeconds)]
  | .cancelled => [.report (.monitorCancelled kind report.elapsedSeconds)]

theorem follows_soundAlarm (tone : AlarmTone) :
    (soundAlarm tone : Act ρ τ Unit).Follows ((alarm tone).map .silent) fun _ => True := by
  apply Act.follows_silent_bind
  intro _
  apply Act.follows_silent_bind
  intro _
  exact Act.follows_call _

theorem follows_conclude (tone : AlarmTone) (kind : MonitorKind) (report : MonitorReport) :
    (conclude tone kind report : Act ρ τ Unit).Follows (closing tone kind report)
      fun _ => True := by
  rw [conclude, closing]
  cases report.status with
  | triggered =>
      apply Act.follows_notice_bind
      apply Act.follows_emit_bind
      exact follows_soundAlarm tone
  | timedOut | cancelled =>
      apply Act.follows_notice_bind
      exact Act.follows_emit _

/-- The line that a watch begins with. -/
def announcement (target : Target) (settings : MonitorSettings) : Notice where
  level := .info
  text :=
    s!"Monitor: {target.kind.name} {settings.range.title} threshold={settings.threshold.toInt} " ++
    s!"for {settings.durationSeconds.toNat} s"

/-- The world once a watch is announced. -/
def started (target : Target) (settings : MonitorSettings) (before : World ρ τ) : World ρ τ :=
  before.record (.notice (announcement target settings))

variable [Ticker τ]

theorem watch_eq (tone : AlarmTone) (settings : MonitorSettings) (target : Target)
    (before : World ρ τ) :
    target.watch tone settings before =
      (watchFrom target.kind settings target.read settings.durationSeconds.toNat 0 #[] >>=
        fun report => do
          conclude tone target.kind report
          pure report) (started target settings before) := by
  cases target <;> rfl

/-- A watch whose seconds fail ends at once. -/
theorem watch_of_error {tone : AlarmTone} {settings : MonitorSettings} {target : Target}
    {before after : World ρ τ} {error : DeviceError}
    (ran : watchFrom target.kind settings target.read settings.durationSeconds.toNat 0 #[]
      (started target settings before) = .error error after) :
    target.watch tone settings before = .error error after := by
  rw [watch_eq, Act.bind_of_error ran]

/-- Any other watch is concluded by how it ended. -/
theorem watch_of_ok (tone : AlarmTone) {settings : MonitorSettings} {target : Target}
    {before between : World ρ τ} {report : MonitorReport}
    (ran : watchFrom target.kind settings target.read settings.durationSeconds.toNat 0 #[]
      (started target settings before) = .ok report between) :
    let closed := (closing tone target.kind report).play between.robot
    ∃ after, target.watch tone settings before = closed.result report after ∧
      closed.Carries between after := by
  rw [watch_eq, Act.bind_of_ok ran]
  apply Act.Follows.result_eq
  exact Act.follows_bind_quiet (follows_conclude tone target.kind report) fun _ _ =>
    Act.follows_pure rfl

theorem complete_of_none {target : Target} {settings : MonitorSettings} {start : World ρ τ}
    (undecided : firstDecisive? target settings start = none) :
    ∀ passed < settings.durationSeconds.toNat, ∃ both, course target start passed = .ok both := by
  intro passed below
  have quiet := List.find?_range_eq_none.mp undecided passed below
  exact exists_ok_of_not_decisive (by simpa using quiet)

theorem complete_of_some {target : Target} {settings : MonitorSettings} {start : World ρ τ}
    {last : Nat} (first : firstDecisive? target settings start = some last) :
    ∀ passed < last, ∃ both, course target start passed = .ok both := by
  intro passed below
  rcases List.find?_range_eq_some.mp first with ⟨-, -, quiet⟩
  exact exists_ok_of_not_decisive (by simpa using quiet passed below)

/-- With its own sample taken the decisive second is whole, too. -/
theorem complete_of_some_ok {target : Target} {settings : MonitorSettings} {start : World ρ τ}
    {last : Nat} {both : Sample × Tick}
    (first : firstDecisive? target settings start = some last)
    (brings : course target start last = .ok both) :
    ∀ passed < last + 1, ∃ both, course target start passed = .ok both := by
  intro passed below
  rcases Nat.lt_succ_iff_lt_or_eq.mp below with earlier | rfl
  · exact complete_of_some first passed earlier
  · exact ⟨both, brings⟩

/-- The seconds of a watch, up to the first decisive one. -/
theorem watchFrom_zero_eq (target : Target) (settings : MonitorSettings) (start : World ρ τ) :
    watchFrom target.kind settings target.read settings.durationSeconds.toNat 0 #[] start =
      match firstDecisive? target settings start with
      | none =>
        .ok ⟨.timedOut, settings.durationSeconds.toNat,
            (samples target start settings.durationSeconds.toNat).toArray⟩
          (worldAfter target start settings.durationSeconds.toNat)
      | some last => resultAt target settings start last := by
  have settled := watchFrom_eq target settings start settings.durationSeconds.toNat 0
  rwa [← List.range_eq_range', Nat.zero_add] at settled

/-- The first decisive second settles how a watch ends, for every target, all settings, every
robot and every ticker. If there is none, the watch times out with one sample a second. If its
sample fails, that failure is the result, and nothing is reported of this second or after it.
If its sample crosses the threshold, the second counts whatever its tick was, and the alarm is
tried up to its first failing call. Otherwise its tick was cancelled: the sample is kept, but
the second does not count. -/
theorem watch_settled_by_first_decisive (tone : AlarmTone) (settings : MonitorSettings)
    (target : Target) (before : World ρ τ) :
    let start := started target settings before
    let duration := settings.durationSeconds.toNat
    let watched := target.watch tone settings before
    let taken := fun count => (samples target start count).toArray
    match firstDecisive? target settings start with
    | none =>
      ∃ after, watched = .ok ⟨.timedOut, duration, taken duration⟩ after ∧
        Sampled target start duration [.event (.monitorTimedOut target.kind duration)] after
    | some passed =>
      match course target start passed with
      | .error error =>
        ∃ after tried, watched = .error error after ∧ Tried target.calls tried (some error) ∧
          Sampled target start passed (tried.map Record.ofAttempt) after
      | .ok (sample, _) =>
        if sample.exceeds settings.range settings.threshold then
          let sounded := Score.play ((alarm tone).map .silent)
            (worldAfter target start (passed + 1)).robot
          ∃ after,
            watched = sounded.result ⟨.triggered, passed + 1, taken (passed + 1)⟩ after ∧
            Sampled target start (passed + 1)
              (.event (.alarmTriggered target.kind (passed + 1)) :: sounded.records) after ∧
            Tried (alarm tone) sounded.records.attempts sounded.failure
        else
          ∃ after, watched = .ok ⟨.cancelled, passed, taken (passed + 1)⟩ after ∧
            Sampled target start (passed + 1)
              [.event (.monitorCancelled target.kind passed)] after := by
  intro start duration watched taken
  have settled := watchFrom_eq target settings start duration 0
  rw [← List.range_eq_range', Nat.zero_add] at settled
  cases first : firstDecisive? target settings start with
  | none =>
      change (List.range _).find? _ = none at first
      rw [first] at settled
      rcases watch_of_ok tone settled with ⟨after, ran, carries⟩
      exact ⟨after, ran, (sampled_worldAfter (complete_of_none first)).followed_by carries.deeds⟩
  | some passed =>
      dsimp only
      change (List.range _).find? _ = some passed at first
      rw [first] at settled
      cases brings : course target start passed with
      | error error =>
          dsimp only
          simp only [resultAt, brings] at settled
          have whole := sampled_worldAfter (complete_of_some first)
          rcases deeds_of_second_error (Act.eq_error_of_answer brings) with ⟨tried, cut, deeds⟩
          exact ⟨_, tried, watch_of_error settled, cut, whole.followed_by deeds⟩
      | ok both =>
          rcases both with ⟨sample, tick⟩
          dsimp only
          simp only [resultAt, brings] at settled
          have whole := sampled_worldAfter (complete_of_some_ok first brings)
          split
          next crossed =>
            rw [if_pos crossed] at settled
            rcases watch_of_ok tone settled with ⟨after, ran, carries⟩
            exact ⟨after, ran, whole.followed_by carries.deeds, Score.tried_play_silent _ _⟩
          next uncrossed =>
            rw [if_neg uncrossed] at settled
            rcases watch_of_ok tone settled with ⟨after, ran, carries⟩
            exact ⟨after, ran, whole.followed_by carries.deeds⟩

theorem tries_watchFrom {allowed : Call → Prop} {target : Target} {settings : MonitorSettings}
    (permitted : ∀ call ∈ target.calls, allowed call) (remaining elapsed : Nat)
    (samples : Array Sample) :
    (watchFrom target.kind settings target.read remaining elapsed samples :
      Act ρ τ MonitorReport).Tries allowed := by
  induction remaining generalizing elapsed samples with
  | zero => exact Act.tries_pure _
  | succ remaining ih =>
      have reads : (target.read : Act ρ τ Sample).Tries allowed := by
        apply (target.follows_read).tries
        rwa [Score.calls_silent]
      apply Act.tries_bind reads
      intro sample
      apply Act.tries_bind (Act.tries_emit _)
      intro _
      apply Act.tries_bind (Act.tries_tick _)
      intro tick
      split
      · exact Act.tries_pure _
      · split
        · exact Act.tries_pure _
        · exact ih _ _

/-- An ending is a row of reports and then no call, or those of the alarm. -/
theorem exists_closing_eq (tone : AlarmTone) (kind : MonitorKind) (report : MonitorReport) :
    ∃ (reports : List Event) (script : List Call), (script = [] ∨ script = alarm tone) ∧
      closing tone kind report = reports.map Cue.report ++ script.map Cue.silent := by
  rw [closing]
  cases report.status with
  | triggered => exact ⟨[_], alarm tone, .inr rfl, rfl⟩
  | timedOut | cancelled => exact ⟨[_], [], .inl rfl, rfl⟩

/-- A watch samples, and then it may report something and sound the alarm. -/
theorem watch_leads (tone : AlarmTone) (settings : MonitorSettings) (target : Target)
    (before : World ρ τ) :
    ∃ (between : World ρ τ) (sampled : Journal) (reports : List Event) (script : List Call),
      World.Leads sampled before between ∧ (∀ call ∈ sampled.calls, call ∈ target.calls) ∧
      (script = [] ∨ script = alarm tone) ∧
      (Score.play (reports.map Cue.report ++ script.map Cue.silent) between.robot).Carries between
        (Act.leaves (target.watch tone settings) before) := by
  let start := started target settings before
  let duration := settings.durationSeconds.toNat
  have announced : World.Leads [] before start := .notice _ before
  have tries : (watchFrom target.kind settings target.read duration 0 #[] :
      Act ρ τ MonitorReport).Tries (· ∈ target.calls) :=
    tries_watchFrom (fun _ inside => inside) duration 0 #[]
  obtain ⟨sampled, leads, among⟩ := tries start
  cases ran : watchFrom target.kind settings target.read duration 0 #[] start with
  | error error between =>
      rw [Act.leaves_of_error ran] at leads
      rw [Act.leaves_of_error (watch_of_error ran)]
      refine ⟨between, sampled, [], [], announced.trans leads, among, .inl rfl, ?_⟩
      exact ⟨rfl, rfl, by simp⟩
  | ok report between =>
      rw [Act.leaves_of_ok ran] at leads
      obtain ⟨reports, script, alarms, closes⟩ := exists_closing_eq tone target.kind report
      refine ⟨between, sampled, reports, script, announced.trans leads, among, alarms, ?_⟩
      rw [← closes]
      obtain ⟨after, watched, carries⟩ := watch_of_ok tone ran
      rw [Played.leaves_of_result watched]
      exact carries

/-- A watch tries the calls of its target and of the alarm only. -/
theorem tries_watch {allowed : Call → Prop} (tone : AlarmTone) (settings : MonitorSettings)
    (target : Target) (samples : ∀ call ∈ target.calls, allowed call)
    (alarms : ∀ call ∈ alarm tone, allowed call) :
    (target.watch tone settings : Act ρ τ MonitorReport).Tries allowed := by
  intro before
  obtain ⟨between, sampled, reports, script, leads, among, sounds, carries⟩ :=
    watch_leads tone settings target before
  refine ⟨_, leads.trans carries.leads, ?_⟩
  intro call inside
  rw [Journal.calls_append] at inside
  rcases List.mem_append.mp inside with early | late
  · exact samples call (among call early)
  · have listed := Score.calls_play_subset _ _ late
    rw [Score.calls_append, Score.calls_reports, List.nil_append, Score.calls_silent] at listed
    rcases sounds with rfl | rfl
    · cases listed
    · exact alarms call listed

end Rover.Monitor
