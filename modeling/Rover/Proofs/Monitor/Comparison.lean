import Rover.Proofs.Binary64.Whole
import Rover.Proofs.Monitor.Outcome
import Rover.Robot.Simulated

/-!
# Two runs of a watch

Two watches that start alike go through the same course, as far as both get. A longer duration adds
seconds at the end and changes none before. A looser threshold can only be crossed earlier, and as
long as it is not crossed it makes no difference at all.
-/

namespace Rover

/-! ## Looser thresholds -/

/-- A threshold that is crossed by all that crosses the other one: lower for a maximum, higher for a
minimum. -/
def ThresholdRange.Looser (range : ThresholdRange) (threshold looser : Int32) : Prop :=
  match range with
  | .minimum => threshold ≤ looser
  | .maximum => looser ≤ threshold

instance (range : ThresholdRange) (threshold looser : Int32) :
    Decidable (range.Looser threshold looser) :=
  match range with
  | .minimum => inferInstanceAs (Decidable (threshold ≤ looser))
  | .maximum => inferInstanceAs (Decidable (looser ≤ threshold))

theorem ThresholdRange.isExceeded_of_looser {range : ThresholdRange} {threshold looser : Int32}
    (loosens : range.Looser threshold looser) {reading : Binary64}
    (exceeded : range.isExceeded reading (.ofInt threshold.toInt) = true) :
    range.isExceeded reading (.ofInt looser.toInt) = true := by
  cases range with
  | minimum =>
      have ordered := Binary64.ofInt_le_ofInt (Int32.le_iff_toInt_le.mp loosens)
      exact Binary64.atMost_trans exceeded ordered
  | maximum =>
      have ordered := Binary64.ofInt_le_ofInt (Int32.le_iff_toInt_le.mp loosens)
      exact Binary64.atMost_trans ordered exceeded

theorem Sample.exceeds_of_looser {range : ThresholdRange} {threshold looser : Int32}
    (loosens : range.Looser threshold looser) {sample : Sample}
    (exceeds : sample.exceeds range threshold = true) : sample.exceeds range looser = true := by
  have crosses : ∀ reading : Option Binary64,
      (reading.any fun reading => range.isExceeded reading (.ofInt threshold.toInt)) = true →
      (reading.any fun reading => range.isExceeded reading (.ofInt looser.toInt)) = true := by
    intro reading crossed
    rw [Option.any_eq_true_iff_get] at crossed ⊢
    obtain ⟨measured, crossed⟩ := crossed
    exact ⟨measured, ThresholdRange.isExceeded_of_looser loosens crossed⟩
  rw [Sample.exceeds, Bool.or_eq_true] at exceeds ⊢
  exact exceeds.imp (crosses _) (crosses _)

/-- What is not a number crosses no threshold. -/
theorem Sample.exceeds_nan (range : ThresholdRange) (threshold : Int32) :
    (Sample.temperature .nan).exceeds range threshold = false := by
  cases range with
  | minimum => rfl
  | maximum => rfl

/-! ## Agreement -/

/-- From one world two actions have the same result, try the same calls, report the same events,
and leave the robot and the ticker in the same state. -/
structure Act.Agree {ρ τ α : Type} (one other : Act ρ τ α) (before : World ρ τ) : Prop where
  answer : Act.answer one before = Act.answer other before
  deeds : one.deeds before = other.deeds before
  robot : (leaves one before).robot = (leaves other before).robot
  ticker : (leaves one before).ticker = (leaves other before).ticker

namespace Monitor

variable {ρ τ : Type} [Robot ρ] [Ticker τ] {tone : AlarmTone} {target : Target}
  {settings other : MonitorSettings} {before : World ρ τ}

/-- All of a watch but for its announcement. -/
def body (tone : AlarmTone) (settings : MonitorSettings) (target : Target) :
    Act ρ τ MonitorReport :=
  watchFrom target.kind settings target.read settings.durationSeconds.toNat 0 #[] >>=
      fun report => do
    conclude tone target.kind report
    pure report

theorem watch_eq_body (tone : AlarmTone) (settings : MonitorSettings) (target : Target)
    (before : World ρ τ) :
    target.watch tone settings before =
      Act.resultPreceded (before.journal.push (.notice (announcement target settings)))
        (body tone settings target before.bare) := by
  have blind : (body tone settings target : Act ρ τ MonitorReport).Blind := by
    apply Act.blind_bind (blind_watchFrom target settings _ _ _)
    intro report
    exact Act.blind_bind (blind_conclude tone target.kind report) fun _ => Act.blind_pure _
  rw [watch_eq, started, ← before.preceded_bare_record]
  exact blind _ _

theorem answer_watch (tone : AlarmTone) (settings : MonitorSettings) (target : Target)
    (before : World ρ τ) :
    Act.answer (target.watch tone settings) before =
      Act.answer (body tone settings target) before.bare := by
  rw [Act.answer, watch_eq_body, Act.answer]
  cases body tone settings target before.bare <;> rfl

theorem leaves_watch (tone : AlarmTone) (settings : MonitorSettings) (target : Target)
    (before : World ρ τ) :
    Act.leaves (target.watch tone settings) before =
      (Act.leaves (body tone settings target) before.bare).preceded
        (before.journal.push (.notice (announcement target settings))) := by
  rw [Act.leaves, watch_eq_body, Act.leaves]
  cases body tone settings target before.bare <;> rfl

theorem deeds_watch (tone : AlarmTone) (settings : MonitorSettings) (target : Target)
    (before : World ρ τ) :
    Act.deeds (target.watch tone settings) before =
      (Act.leaves (body tone settings target) before.bare).history.deeds := by
  apply Act.deeds_eq
  rw [leaves_watch, World.history_preceded, Array.toList_push]
  simp [World.history]

/-- Without a difference in the seconds there is none in the watch. -/
theorem agree_of_watchFrom_eq (tone : AlarmTone)
    (same : watchFrom target.kind settings target.read settings.durationSeconds.toNat 0 #[]
        before.bare =
      watchFrom target.kind other target.read other.durationSeconds.toNat 0 #[] before.bare) :
    Act.Agree (target.watch tone settings) (target.watch tone other) before := by
  have bodies : body tone settings target before.bare = body tone other target before.bare := by
    change EStateM.bind _ _ _ = EStateM.bind _ _ _
    simp only [EStateM.bind, same]
  have worlds := Act.leaves_of_eq bodies
  constructor
  · rw [answer_watch, answer_watch, Act.answer, Act.answer, bodies]
  · rw [deeds_watch, deeds_watch, worlds]
  · rw [leaves_watch, leaves_watch, World.robot_preceded, World.robot_preceded, worlds]
  · rw [leaves_watch, leaves_watch, World.ticker_preceded, World.ticker_preceded, worlds]

/-- Two watches without a decisive second agree over the same duration. -/
theorem agree_of_none (tone : AlarmTone) (same : other.durationSeconds = settings.durationSeconds)
    (first : firstDecisive? target settings before = none)
    (first' : firstDecisive? target other before = none) :
    Act.Agree (target.watch tone settings) (target.watch tone other) before := by
  rw [← firstDecisive?_bare] at first first'
  apply agree_of_watchFrom_eq
  rw [watchFrom_zero_eq, watchFrom_zero_eq, first, first', same]

/-- Two watches agree if they are ended by the same second for the same reason. -/
theorem agree_of_some (tone : AlarmTone) {last : Nat}
    (first : firstDecisive? target settings before = some last)
    (first' : firstDecisive? target other before = some last)
    (same : ∀ {sample tick}, course target before last = .ok (sample, tick) →
      sample.exceeds other.range other.threshold =
        sample.exceeds settings.range settings.threshold) :
    Act.Agree (target.watch tone settings) (target.watch tone other) before := by
  rw [← firstDecisive?_bare] at first first'
  apply agree_of_watchFrom_eq
  simp only [watchFrom_zero_eq, first, first', resultAt, course_bare]
  cases brings : course target before last with
  | error error => rfl
  | ok both =>
      obtain ⟨sample, tick⟩ := both
      simp only [same brings]

/-! ## A longer duration -/

/-- A longer watch goes through the same seconds first. -/
theorem firstDecisive?_longer {last : Nat} {longer : UInt32}
    (ordered : settings.durationSeconds ≤ longer)
    (first : firstDecisive? target settings before = some last) :
    firstDecisive? target { settings with durationSeconds := longer } before = some last := by
  obtain ⟨below, decides, undecided⟩ := firstDecisive?_eq_some_iff.mp first
  have within : settings.durationSeconds.toNat ≤ longer.toNat := UInt32.le_iff_toNat_le.mp ordered
  exact firstDecisive?_eq_some_iff.mpr ⟨Nat.lt_of_lt_of_le below within, decides, undecided⟩

/-- As long as no second was decisive, a longer watch has at least as many whole seconds. -/
theorem le_wholeSeconds_longer {longer : UInt32} (ordered : settings.durationSeconds ≤ longer)
    (first : firstDecisive? target settings before = none) :
    settings.durationSeconds.toNat ≤
      wholeSeconds target { settings with durationSeconds := longer } before := by
  cases first' : firstDecisive? target { settings with durationSeconds := longer } before with
  | none =>
      rw [wholeSeconds_of_none first']
      exact UInt32.le_iff_toNat_le.mp ordered
  | some last =>
      obtain ⟨-, decides, -⟩ := firstDecisive?_eq_some_iff.mp first'
      have late : settings.durationSeconds.toNat ≤ last := by
        by_contra early
        have undecided := firstDecisive?_eq_none_iff.mp first last (Nat.not_le.mp early)
        exact Bool.false_ne_true (undecided.symm.trans decides)
      cases brings : course target before last with
      | error error => rwa [wholeSeconds_of_error first' brings]
      | ok both =>
          rw [wholeSeconds_of_ok first' brings]
          exact Nat.le_succ_of_le late

/-! ## A looser threshold -/

theorem decisive_of_looser {looser : Int32}
    (loosens : settings.range.Looser settings.threshold looser)
    {brought : Except DeviceError (Sample × Tick)} (decides : decisive settings brought = true) :
    decisive { settings with threshold := looser } brought = true := by
  cases brought with
  | error error => rfl
  | ok both =>
      rw [decisive, Bool.or_eq_true] at decides ⊢
      exact decides.imp_left (Sample.exceeds_of_looser loosens)

/-- What the looser threshold does not settle the other one does not settle either. -/
theorem undecided_of_looser {looser : Int32}
    (loosens : settings.range.Looser settings.threshold looser)
    {brought : Except DeviceError (Sample × Tick)}
    (undecided : decisive { settings with threshold := looser } brought = false) :
    decisive settings brought = false := by
  rw [← Bool.not_eq_true] at undecided ⊢
  exact fun decides => undecided (decisive_of_looser loosens decides)

/-- A looser threshold is crossed no later. -/
theorem Crosses.of_looser {looser : Int32}
    (loosens : settings.range.Looser settings.threshold looser) {last : Nat} {sample : Sample}
    (crosses : Crosses target settings before last sample) :
    ∃ last' ≤ last, ∃ sample',
      Crosses target { settings with threshold := looser } before last' sample' := by
  obtain ⟨first, ⟨tick, brings⟩, exceeds⟩ := crosses
  obtain ⟨below, decides, undecided⟩ := firstDecisive?_eq_some_iff.mp first
  have decides' := decisive_of_looser loosens decides
  cases first' : firstDecisive? target { settings with threshold := looser } before with
  | none =>
      have undecided' := firstDecisive?_eq_none_iff.mp first' last below
      exact absurd (undecided'.symm.trans decides') Bool.false_ne_true
  | some last' =>
      obtain ⟨-, decides'', undecided'⟩ := firstDecisive?_eq_some_iff.mp first'
      rcases Nat.lt_trichotomy last' last with earlier | rfl | later
      · -- a second that the stricter threshold leaves open is only settled by a crossing
        have left := undecided last' earlier
        obtain ⟨⟨sample', tick'⟩, brings'⟩ := exists_ok_of_not_decisive left
        rw [brings'] at left decides''
        simp only [decisive, Bool.or_eq_false_iff] at left
        simp only [decisive, left.2, Bool.or_false] at decides''
        exact ⟨last', Nat.le_of_lt earlier, sample', first', ⟨tick', brings'⟩, decides''⟩
      · exact ⟨last', Nat.le_refl _, sample, first', ⟨tick, brings⟩,
          Sample.exceeds_of_looser loosens exceeds⟩
      · exact absurd ((undecided' last later).symm.trans decides') Bool.false_ne_true

/-- As long as it is not crossed, a looser threshold makes no difference. -/
theorem agree_looser (tone : AlarmTone) {looser : Int32}
    (loosens : settings.range.Looser settings.threshold looser)
    (uncrossed : ∀ last sample,
      ¬ Crosses target { settings with threshold := looser } before last sample) :
    Act.Agree (target.watch tone settings)
      (target.watch tone { settings with threshold := looser }) before := by
  cases first' : firstDecisive? target { settings with threshold := looser } before with
  | none =>
      refine agree_of_none tone rfl (firstDecisive?_eq_none_iff.mpr ?_) first'
      intro passed below
      exact undecided_of_looser loosens (firstDecisive?_eq_none_iff.mp first' passed below)
  | some last =>
      obtain ⟨below, decides', undecided'⟩ := firstDecisive?_eq_some_iff.mp first'
      have undecided := fun passed earlier =>
        undecided_of_looser loosens (undecided' passed earlier)
      have unexceeded : ∀ {sample tick}, course target before last = .ok (sample, tick) →
          sample.exceeds settings.range looser = false ∧
            sample.exceeds settings.range settings.threshold = false := by
        intro sample tick brings
        have loose : ¬ sample.exceeds settings.range looser = true := fun exceeds =>
          uncrossed last sample ⟨first', ⟨tick, brings⟩, exceeds⟩
        have strict : ¬ sample.exceeds settings.range settings.threshold = true := fun exceeds =>
          loose (Sample.exceeds_of_looser loosens exceeds)
        exact ⟨Bool.eq_false_of_not_eq_true loose, Bool.eq_false_of_not_eq_true strict⟩
      have decides : decisive settings (course target before last) = true := by
        cases brings : course target before last with
        | error error => rfl
        | ok both =>
            obtain ⟨loose, strict⟩ := unexceeded brings
            rw [brings] at decides'
            simpa only [decisive, loose, strict] using decides'
      have first : firstDecisive? target settings before = some last :=
        firstDecisive?_eq_some_iff.mpr ⟨below, decides, undecided⟩
      refine agree_of_some tone first first' fun brings => ?_
      rw [(unexceeded brings).1, (unexceeded brings).2]

/-! ## Temperatures that are no numbers -/

/-- The last sample before an alarm is a number. -/
theorem sampleReports_ne_nan {kind kind' : MonitorKind} {elapsed number : Nat}
    {right : Option Binary64}
    (alarms : .alarmTriggered kind elapsed ∈
      (Act.deeds (target.watch tone settings) before).events) :
    (Act.deeds (target.watch tone settings) before).sampleReports.getLast? ≠
      some (.monitorSample kind' number (some .nan) right) := by
  obtain ⟨last, sample, first, ⟨tick, brings⟩, exceeds⟩ := exists_crosses_of_alarm alarms
  rw [sampleReports_watch, wholeSeconds_of_ok first brings, samples_succ_of_ok brings,
    reportsOf_concat, List.getLast?_concat]
  intro same
  injection same with same
  injection same with _ _ left _
  cases sample with
  | temperature celsius =>
      cases left
      rw [Sample.exceeds_nan] at exceeds
      cases exceeds
  | light level _ => cases level <;> cases left

/-! ## The law of two runs -/

/-- Watches are monotone in their duration and in their threshold. A longer watch does the same as
one that was triggered, cancelled or failed, and goes on from one that timed out. A looser threshold
is crossed no later if it comes to its alarm, and without an alarm it makes no difference. No alarm
comes from a temperature that is not a number. -/
theorem watch_monotone (tone : AlarmTone) (settings : MonitorSettings) (target : Target)
    (before : World ρ τ) :
    let run : MonitorSettings → Act ρ τ MonitorReport := fun settings =>
      target.watch tone settings
    let gain := fun settings => (run settings).deeds before
    (∀ longer, settings.durationSeconds ≤ longer →
      let prolonged := { settings with durationSeconds := longer }
      ((∀ report, Act.answer (run settings) before = .ok report → report.status ≠ .timedOut) →
        Act.Agree (run settings) (run prolonged) before) ∧
      ∀ report, Act.answer (run settings) before = .ok report → report.status = .timedOut →
        (gain settings).sampleReports.length = settings.durationSeconds.toNat ∧
        (gain settings).sampleReports <+: (gain prolonged).sampleReports ∧
        report.samples.size = settings.durationSeconds.toNat ∧
        ∀ report', Act.answer (run prolonged) before = .ok report' →
          report.samples.toList <+: report'.samples.toList) ∧
    (∀ looser, settings.range.Looser settings.threshold looser →
      let loosened := { settings with threshold := looser }
      (∀ report, Act.answer (run settings) before = .ok report → report.status = .triggered →
        (∀ call ∈ alarm tone, ∀ error, (call, some error) ∉ (gain loosened).attempts) →
        ∃ report', Act.answer (run loosened) before = .ok report' ∧ report'.status = .triggered ∧
          report'.elapsedSeconds ≤ report.elapsedSeconds ∧
          report'.samples.toList <+: report.samples.toList) ∧
      ((∀ elapsed, .alarmTriggered target.kind elapsed ∉ (gain loosened).events) →
        Act.Agree (run settings) (run loosened) before)) ∧
    ∀ elapsed, .alarmTriggered target.kind elapsed ∈ (gain settings).events →
      ∀ number, (gain settings).sampleReports.getLast? ≠
        some (.monitorSample .temperature number (some .nan) none) := by
  intro run gain
  refine ⟨?longer, ?looser, fun elapsed alarms number => sampleReports_ne_nan alarms⟩
  case longer =>
    intro longer ordered prolonged
    constructor
    · intro ended
      cases first : firstDecisive? target settings before with
      | none => exact absurd rfl (ended _ (answer_of_none tone first))
      | some last =>
          exact agree_of_some tone first (firstDecisive?_longer ordered first) fun _ => rfl
    · intro report answered timedOut
      have first := firstDecisive?_of_timedOut answered timedOut
      have whole := wholeSeconds_of_none first
      have more := le_wholeSeconds_longer ordered first
      rw [← whole] at more
      have begins := samples_prefix target before more
      have taken := samples_of_answer answered
      refine ⟨?_, ?_, ?_, ?_⟩
      · rw [sampleReports_watch, reportsOf, List.length_mapIdx, length_samples_wholeSeconds, whole]
      · rw [sampleReports_watch, sampleReports_watch]
        exact reportsOf_prefix target begins
      · rw [← Array.length_toList, taken, length_samples_wholeSeconds, whole]
      · intro report' answered'
        rw [taken, samples_of_answer answered']
        exact begins
  case looser =>
    intro looser loosens loosened
    constructor
    · intro report answered triggered sounds
      obtain ⟨last, sample, crosses, elapsed⟩ := exists_crosses_of_triggered answered triggered
      obtain ⟨last', earlier, sample', crosses'⟩ := crosses.of_looser loosens
      refine ⟨_, crosses'.answer_eq sounds, rfl, ?_, ?_⟩
      · rw [elapsed]
        exact Nat.succ_le_succ earlier
      · rw [samples_of_answer answered, crosses.wholeSeconds_eq]
        exact samples_prefix target before (Nat.succ_le_succ earlier)
    · intro quiet
      apply agree_looser tone loosens
      intro last sample crosses
      exact quiet _ (crosses.alarm_mem tone)

/-- A light that grows: the lower threshold is crossed one second before the higher one. -/
theorem watch_monotone_growing_light :
    let robot : SimulatedRobot := { connected := true, leftLight := ⟨[20, 60, 90], 90⟩ }
    let before : World SimulatedRobot ManualTicker := { robot, ticker := {} }
    let run := fun threshold : Int32 => (Target.watch (.ofConfig .standard) ⟨.maximum, threshold, 5⟩
      (.light .left) : Act SimulatedRobot ManualTicker MonitorReport)
    ∃ report report', Act.answer (run 80) before = .ok report ∧ report.elapsedSeconds = 3 ∧
      Act.answer (run 50) before = .ok report' ∧ report'.status = .triggered ∧
      report'.elapsedSeconds ≤ 3 ∧ report'.samples.toList <+: report.samples.toList := by
  intro robot before run
  have answered : Act.answer (run 80) before =
      .ok ⟨.triggered, 3,
        #[.light (some 20) none, .light (some 60) none, .light (some 90) none]⟩ := by
    decide +kernel
  have accepted : ∀ attempt ∈ ((run 50).deeds before).attempts, attempt.2 = none := by
    decide +kernel
  obtain ⟨-, looser, -⟩ :=
    watch_monotone (.ofConfig .standard) ⟨.maximum, 80, 5⟩ (.light .left) before
  obtain ⟨report', answered', triggered, earlier, begins⟩ :=
    (looser 50 (by decide)).1 _ answered rfl fun call _ error failed => by
      cases accepted (call, some error) failed
  exact ⟨_, report', answered, rfl, answered', triggered, earlier, begins⟩

end Monitor

end Rover
