import Rover.Proofs.Monitor.Outcome
import Rover.Proofs.Recording.Outcome
import Rover.Proofs.Robot.Link

/-!
# The two paces of a recording

A recording at the pace of waits of the robot differs from one at the pace of a ticker that never
cancels only by the waits themselves, as long as these succeed and leave the temperature alone.
-/

namespace Rover

variable {ρ τ τ' α β : Type}

/-! ## Robots that wait patiently -/

section Patient

variable [Robot ρ]

/-- Whether a call is a wait. -/
def Call.IsWait (call : Call) : Prop := ∃ millis, call = .wait millis

/-- Whenever the temperature was read and waits were made before, in whatever order, further waits
succeed, and the temperature is read as if there had been no waits. -/
structure Patient (robot : ρ) : Prop where
  waits : ∀ calls : List Call, (∀ call ∈ calls, call = .temperature ∨ call.IsWait) → ∀ millis,
    (Robot.perform (.wait millis) (Robot.after robot calls)).result = .ok ()
  reads : ∀ calls : List Call, (∀ call ∈ calls, call = .temperature ∨ call.IsWait) →
    (Robot.perform .temperature (Robot.after robot calls)).result =
      (Robot.perform .temperature (Robot.after robot (calls.filter (· = .temperature)))).result

/-- One robot is where it is after readings and waits, and the other after the readings only. -/
def Paced (origin waiting ticking : ρ) : Prop :=
  ∃ calls : List Call, (∀ call ∈ calls, call = .temperature ∨ call.IsWait) ∧
    waiting = Robot.after origin calls ∧
    ticking = Robot.after origin (calls.filter (· = .temperature))

namespace Paced

variable {origin waiting ticking : ρ}

theorem start (origin : ρ) : Paced origin origin origin :=
  ⟨[], by simp, rfl, rfl⟩

theorem result_temperature (patient : Patient origin) (paced : Paced origin waiting ticking) :
    (Robot.perform .temperature waiting).result = (Robot.perform .temperature ticking).result := by
  obtain ⟨calls, only, rfl, rfl⟩ := paced
  exact patient.reads calls only

theorem result_wait (patient : Patient origin) (paced : Paced origin waiting ticking)
    (millis : UInt32) : (Robot.perform (.wait millis) waiting).result = .ok () := by
  obtain ⟨calls, only, rfl, rfl⟩ := paced
  exact patient.waits calls only millis

theorem read (paced : Paced origin waiting ticking) :
    Paced origin (Robot.perform .temperature waiting).robot
      (Robot.perform .temperature ticking).robot := by
  obtain ⟨calls, only, rfl, rfl⟩ := paced
  refine ⟨calls ++ [.temperature], ?_, (Robot.after_concat ..).symm, ?_⟩
  · intro call inside
    rcases List.mem_append.mp inside with early | last
    · exact only call early
    · exact .inl (List.mem_singleton.mp last)
  · rw [List.filter_append, ← Robot.after_concat]
    rfl

theorem wait (paced : Paced origin waiting ticking) (millis : UInt32) :
    Paced origin (Robot.perform (.wait millis) waiting).robot ticking := by
  obtain ⟨calls, only, rfl, rfl⟩ := paced
  refine ⟨calls ++ [.wait millis], ?_, (Robot.after_concat ..).symm, ?_⟩
  · intro call inside
    rcases List.mem_append.mp inside with early | last
    · exact only call early
    · exact .inr ⟨millis, List.mem_singleton.mp last⟩
  · rw [List.filter_append]
    simp

end Paced

/-- A robot is patient if it keeps step with itself: one that makes the waits, and one that skips
them. -/
theorem Patient.of_simulation (alike : ρ → ρ → Prop) {robot : ρ} (start : alike robot robot)
    (waits : ∀ {waiting skipping}, alike waiting skipping → ∀ millis,
      (Robot.perform (.wait millis) waiting).result = .ok () ∧
        alike (Robot.perform (.wait millis) waiting).robot skipping)
    (reads : ∀ {waiting skipping}, alike waiting skipping →
      (Robot.perform .temperature waiting).result = (Robot.perform .temperature skipping).result ∧
        alike (Robot.perform .temperature waiting).robot
          (Robot.perform .temperature skipping).robot) :
    Patient robot := by
  have keepsStep : ∀ calls : List Call, (∀ call ∈ calls, call = .temperature ∨ call.IsWait) →
      alike (Robot.after robot calls)
        (Robot.after robot (calls.filter (· = .temperature))) := by
    intro calls
    induction calls using List.reverseRecOn with
    | nil => exact fun _ => start
    | append_singleton calls call ih =>
        intro only
        have before := ih fun call inside => only call (List.mem_append_left _ inside)
        rw [Robot.after_concat, List.filter_append]
        rcases only call (by simp) with rfl | ⟨millis, rfl⟩
        · have skipped : [Call.temperature].filter (· = .temperature) = [.temperature] := rfl
          rw [skipped, Robot.after_concat]
          exact (reads before).2
        · have skipped : [Call.wait millis].filter (· = .temperature) = [] := rfl
          rw [skipped, List.append_nil]
          exact (waits before millis).2
  exact ⟨fun calls only millis => (waits (keepsStep calls only) millis).1,
    fun calls only => (reads (keepsStep calls only)).1⟩

end Patient

namespace SimulatedRobot

/-- Both robots are connected and accept waits, and they have the same injected fault and the same
temperatures to come. -/
structure Alike (waiting skipping : SimulatedRobot) : Prop where
  connected : waiting.connected = true ∧ skipping.connected = true
  accepts : waiting.failing ≠ some "wait"
  failing : waiting.failing = skipping.failing
  temperature : waiting.temperature = skipping.temperature

namespace Alike

variable {waiting skipping : SimulatedRobot}

theorem wait (alike : Alike waiting skipping) (millis : UInt32) :
    (perform (.wait millis) waiting).result = .ok () ∧
      Alike (perform (.wait millis) waiting).robot skipping := by
  have accepted : waiting.refusal? (.wait millis) = none := by
    rw [refusal?, alike.connected.1, if_neg (by simp)]
    exact if_neg alike.accepts
  simp only [perform, accepted, apply]
  exact ⟨trivial, alike.connected, alike.accepts, alike.failing, alike.temperature⟩

theorem read (alike : Alike waiting skipping) :
    (perform .temperature waiting).result = (perform .temperature skipping).result ∧
      Alike (perform .temperature waiting).robot (perform .temperature skipping).robot := by
  have same : waiting.refusal? .temperature = skipping.refusal? .temperature := by
    simp only [refusal?, alike.connected, alike.failing]
  cases refused : skipping.refusal? .temperature with
  | some error =>
      rw [refused] at same
      simp only [perform, refused, same]
      exact ⟨trivial, alike⟩
  | none =>
      rw [refused] at same
      simp only [perform, refused, same, apply, keep, alike.temperature]
      exact ⟨trivial, alike.connected, alike.accepts, alike.failing, rfl⟩

end Alike

/-- Connected and without a fault on waits, the simulated robot is patient. -/
theorem patient {robot : SimulatedRobot} (connected : robot.connected = true)
    (accepts : robot.failing ≠ some "wait") : Patient robot :=
  .of_simulation Alike ⟨⟨connected, connected⟩, accepts, rfl, rfl⟩ Alike.wait Alike.read

end SimulatedRobot

/-! ## Tickers that never cancel -/

/-- However often and whenever it is asked for the period, the ticker lets it elapse. -/
def Ticker.Steady [Ticker τ] (period : Nat) (ticker : τ) : Prop :=
  ∀ answers last, Ticker.Asked period ticker answers last → .cancelled ∉ answers

namespace Ticker.Steady

variable [Ticker τ] {period : Nat} {ticker : τ}

theorem elapsed (steady : Ticker.Steady period ticker) (now : Nat) :
    (Ticker.tick period now ticker).tick = .elapsed := by
  have never := steady _ _ (.tick now (.done _))
  cases answer : (Ticker.tick period now ticker).tick with
  | elapsed => rfl
  | cancelled =>
      rw [answer] at never
      exact absurd (List.mem_singleton.mpr rfl) never

theorem tick (steady : Ticker.Steady period ticker) (now : Nat) :
    Ticker.Steady period (Ticker.tick period now ticker).ticker := by
  intro answers last asked refused
  exact steady _ last (.tick now asked) (List.mem_cons_of_mem _ refused)

end Ticker.Steady

/-- A ticker without a limit that is not cancelled from outside goes on for ever. -/
theorem ManualTicker.steady {ticker : ManualTicker} (unlimited : ticker.limit = none)
    (running : ticker.token ≠ some true) (period : Nat) : Ticker.Steady period ticker := by
  intro answers last asked
  induction asked with
  | done => exact List.not_mem_nil
  | @tick now ticker last answers _ ih =>
      have free : ticker.isCancelled = false := by simp [isCancelled, unlimited, running]
      have elapses : (Ticker.tick period now ticker).tick = .elapsed ∧
          (Ticker.tick period now ticker).ticker =
            { ticker with periods := ticker.periods.push period } := by
        change (ManualTicker.tick period ticker).tick = _ ∧
          (ManualTicker.tick period ticker).ticker = _
        simp only [ManualTicker.tick, free, Bool.false_eq_true, if_false, and_self]
      rw [elapses.2] at ih
      rw [elapses.1]
      simpa using ih unlimited running

/-! ## Deeds with waits -/

namespace Recording

/-- A deed of a recording at the pace of a ticker becomes deeds of one at the pace of waits: the
report of a sample is followed by a wait. -/
def spacedDeed (period : Nat) : Record → Journal
  | .event (.temperatureRecorded index celsius) =>
    [.event (.temperatureRecorded index celsius), .call (.wait (waitOf period)) none]
  | deed => [deed]

/-- Every report of a sample is followed by a wait. -/
def spaced (period : Nat) (deeds : Journal) : Journal := deeds.flatMap (spacedDeed period)

@[simp] theorem spaced_append (period : Nat) (first second : Journal) :
    spaced period (first ++ second) = spaced period first ++ spaced period second :=
  List.flatMap_append

theorem spaced_roundDeeds (period index : Nat) (celsius : Binary64) :
    spaced period (roundDeeds index celsius) =
      roundDeeds index celsius ++ [.call (.wait (waitOf period)) none] := rfl

theorem spaced_closing (period taken requested : Nat) :
    spaced period (closing taken requested) = closing taken requested := by
  rw [closing]
  split <;> rfl

theorem events_spacedDeed (period : Nat) (deed : Record) :
    (spacedDeed period deed).events = deed.event?.toList := by
  cases deed with
  | event happened => cases happened <;> rfl
  | call tried failure => rfl
  | notice told => rfl
  | pause nanoseconds => rfl

/-- The waits are no events. -/
theorem events_spaced (period : Nat) (deeds : Journal) :
    (spaced period deeds).events = deeds.events := by
  induction deeds with
  | nil => rfl
  | cons deed rest ih =>
      rw [Journal.events_cons, ← ih, ← events_spacedDeed period, ← Journal.events_append]
      rfl

/-- Two actions give the same, and their deeds differ by the waits. -/
structure Agree (period : Nat) (waited : Act ρ τ' α) (waiting : World ρ τ') (ticked : Act ρ τ α)
    (ticking : World ρ τ) : Prop where
  answer : Act.answer waited waiting = Act.answer ticked ticking
  deeds : ∃ gain,
    (Act.leaves ticked ticking).history.deeds = ticking.history.deeds ++ gain ∧
    (Act.leaves waited waiting).history.deeds = waiting.history.deeds ++ spaced period gain

namespace Agree

variable {period : Nat} {waiting waiting' : World ρ τ'} {ticking ticking' : World ρ τ}

/-- Actions that fail alike after alike deeds. -/
theorem of_error {waited : Act ρ τ' α} {ticked : Act ρ τ α} {error : DeviceError} (gain : Journal)
    (ran' : waited waiting = .error error waiting') (ran : ticked ticking = .error error ticking')
    (deeds : ticking'.history.deeds = ticking.history.deeds ++ gain)
    (deeds' : waiting'.history.deeds = waiting.history.deeds ++ spaced period gain) :
    Agree period waited waiting ticked ticking where
  answer := by rw [Act.answer, Act.answer, ran, ran']
  deeds := ⟨gain, by rw [Act.leaves_of_error ran, deeds], by rw [Act.leaves_of_error ran', deeds']⟩

/-- Actions that give the same after alike deeds. -/
theorem of_ok {waited : Act ρ τ' α} {ticked : Act ρ τ α} {value : α} (gain : Journal)
    (ran' : waited waiting = .ok value waiting') (ran : ticked ticking = .ok value ticking')
    (deeds : ticking'.history.deeds = ticking.history.deeds ++ gain)
    (deeds' : waiting'.history.deeds = waiting.history.deeds ++ spaced period gain) :
    Agree period waited waiting ticked ticking where
  answer := by rw [Act.answer, Act.answer, ran, ran']
  deeds := ⟨gain, by rw [Act.leaves_of_ok ran, deeds], by rw [Act.leaves_of_ok ran', deeds']⟩

/-- Actions that go on as agreeing ones after alike deeds. -/
theorem of_rest {waited rest' : Act ρ τ' α} {ticked rest : Act ρ τ α} (gain : Journal)
    (ran' : waited waiting = rest' waiting') (ran : ticked ticking = rest ticking')
    (deeds : ticking'.history.deeds = ticking.history.deeds ++ gain)
    (deeds' : waiting'.history.deeds = waiting.history.deeds ++ spaced period gain)
    (agree : Agree period rest' waiting' rest ticking') :
    Agree period waited waiting ticked ticking := by
  obtain ⟨answer, further, onward, onward'⟩ := agree
  refine ⟨?_, gain ++ further, ?_, ?_⟩
  · simpa only [Act.answer, ran, ran'] using answer
  · rw [Act.leaves_of_eq ran, onward, deeds, List.append_assoc]
  · rw [Act.leaves_of_eq ran', onward', deeds', spaced_append, List.append_assoc]

theorem bind {waited : Act ρ τ' α} {ticked : Act ρ τ α} {next' : α → Act ρ τ' β}
    {next : α → Act ρ τ β} (agree : Agree period waited waiting ticked ticking)
    (continues : ∀ value (between' : World ρ τ') (between : World ρ τ),
      Agree period (next' value) between' (next value) between) :
    Agree period (waited >>= next') waiting (ticked >>= next) ticking := by
  obtain ⟨answer, gain, deeds, deeds'⟩ := agree
  cases ran : ticked ticking with
  | error error between =>
      have ran' := Act.eq_error_of_answer (answer.trans (by rw [Act.answer, ran]))
      rw [Act.leaves_of_error ran] at deeds
      exact of_error gain (Act.bind_of_error ran') (Act.bind_of_error ran) deeds deeds'
  | ok value between =>
      have ran' := Act.eq_ok_of_answer (answer.trans (by rw [Act.answer, ran]))
      rw [Act.leaves_of_ok ran] at deeds
      exact of_rest gain (Act.bind_of_ok ran') (Act.bind_of_ok ran) deeds deeds' (continues ..)

end Agree

/-! ## One sample at either pace -/

variable [Robot ρ]

/-- The pace of waits. -/
def waitPace (period : Nat) : Act ρ τ Bool := do Act.call (.wait (waitOf period)); pure true

theorem robot_noted (index : Nat) (celsius : Binary64) (before : World ρ τ) :
    (noted index celsius before).robot = (Robot.perform .temperature before.robot).robot := by
  simp [noted]

section Sample

variable {pace : Act ρ τ Bool} {taken : Array Binary64} {remaining : Nat} {before : World ρ τ}

theorem sampleFrom_of_unread {error : DeviceError}
    (unread : (Robot.perform .temperature before.robot).result = .error error) :
    sampleFrom pace (remaining + 1) taken before =
      .error error (Act.afterCall (Robot.perform .temperature before.robot) before) := by
  rw [sampleFrom_succ, Act.bind_of_error (Act.call_of_error unread)]

/-- The pace goes on after a sample. -/
theorem sampleFrom_of_read {celsius : Binary64} {after : World ρ τ}
    (read : (Robot.perform .temperature before.robot).result = .ok celsius)
    (goesOn : pace (noted taken.size celsius before) = .ok true after) :
    sampleFrom pace (remaining + 1) taken before =
      sampleFrom pace remaining (taken.push celsius) after := by
  rw [sampleFrom_succ, Act.bind_of_ok (Act.call_of_ok read)]
  exact Act.bind_of_ok goesOn

end Sample

theorem waitPace_of_ok {period : Nat} {before : World ρ τ}
    (waits : (Robot.perform (.wait (waitOf period)) before.robot).result = .ok ()) :
    waitPace period before =
      .ok true (Act.afterCall (Robot.perform (.wait (waitOf period)) before.robot) before) :=
  Act.bind_of_ok (Act.call_of_ok waits)

omit [Robot ρ] in
theorem tickerPace_of_steady [Ticker τ] {period : Nat} {before : World ρ τ}
    (steady : Ticker.Steady period before.ticker) :
    tickerPace period before =
      .ok true (Act.afterTick (Ticker.tick period before.clock before.ticker) before) := by
  rw [tickerPace, Act.bind_of_ok (Act.tick_eq period before), steady.elapsed]
  rfl

variable [Ticker τ]

theorem agree_sampleFrom {origin : ρ} (patient : Patient origin) (period remaining : Nat)
    (taken : Array Binary64) {waiting : World ρ τ'} {ticking : World ρ τ}
    (paced : Paced origin waiting.robot ticking.robot)
    (steady : Ticker.Steady period ticking.ticker) :
    Agree period (sampleFrom (waitPace period) remaining taken) waiting
      (sampleFrom (tickerPace period) remaining taken) ticking := by
  induction remaining generalizing taken waiting ticking with
  | zero => exact ⟨rfl, [], (List.append_nil _).symm, (List.append_nil _).symm⟩
  | succ remaining ih =>
      have same := paced.result_temperature patient
      cases read : (Robot.perform .temperature ticking.robot).result with
      | error error =>
          rw [read] at same
          refine .of_error [.call .temperature (some error)] (sampleFrom_of_unread same)
            (sampleFrom_of_unread read) ?_ ?_
          · rw [Act.deeds_afterCall, read]
            rfl
          · rw [Act.deeds_afterCall, same]
            rfl
      | ok celsius =>
          rw [read] at same
          let answered := noted taken.size celsius ticking
          let answered' := noted taken.size celsius waiting
          have paced' : Paced origin answered'.robot answered.robot := by
            rw [robot_noted, robot_noted]
            exact paced.read
          have steady' : Ticker.Steady period answered.ticker := by
            rw [ticker_noted]
            exact steady
          have waits := paced'.result_wait patient (waitOf period)
          refine .of_rest (roundDeeds taken.size celsius)
            (sampleFrom_of_read same (waitPace_of_ok waits))
            (sampleFrom_of_read read (tickerPace_of_steady steady')) ?_ ?_ (ih _ ?_ ?_)
          · rw [Act.history_afterTick, Journal.deeds_append, Journal.deeds_pauseRecords,
              List.append_nil, deeds_noted read]
          · rw [Act.deeds_afterCall, waits, deeds_noted same, spaced_roundDeeds, List.append_assoc]
            rfl
          · rw [Act.robot_afterCall, Act.robot_afterTick]
            exact paced'.wait (waitOf period)
          · rw [Act.ticker_afterTick]
            exact steady'.tick answered.clock

omit [Ticker τ] in
theorem agree_close (period requested : Nat) (taken : Array Binary64) (waiting : World ρ τ')
    (ticking : World ρ τ) :
    Agree period (close requested taken) waiting (close requested taken) ticking := by
  obtain ⟨after, closed, leads, -⟩ := close_eq requested taken ticking
  obtain ⟨after', closed', leads', -⟩ := close_eq requested taken waiting
  rw [← spaced_closing period] at leads'
  exact .of_ok _ closed' closed leads.deeds leads'.deeds

/-- With patient waits and a steady ticker the two recordings agree. -/
theorem agree_withWaits (period : Nat) (requested : Count) {waiting : World ρ τ'}
    {ticking : World ρ τ} (alike : waiting.robot = ticking.robot) (patient : Patient ticking.robot)
    (steady : Ticker.Steady period ticking.ticker) :
    Agree period (withWaits period requested) waiting (withTicker period requested) ticking := by
  let told := Record.notice (announcement period requested)
  have paced : Paced ticking.robot (waiting.record told).robot (ticking.record told).robot := by
    rw [World.robot_record, World.robot_record, alike]
    exact .start ticking.robot
  refine .of_rest [] (take_eq _ period requested waiting) (take_eq _ period requested ticking)
    ?_ ?_ ?_
  · rw [World.deeds_record_notice, List.append_nil]
  · rw [World.deeds_record_notice]
    exact (List.append_nil _).symm
  · exact (agree_sampleFrom patient period requested #[] paced steady).bind
      fun taken between' between => agree_close period requested taken between' between

theorem toNat_waitOf (period : Nat) :
    (waitOf period).toNat = min (period / oneMillisecond) (UInt32.size - 1) := by
  rw [waitOf, UInt32.toNat_ofNat_of_lt']
  · rfl
  · exact Nat.lt_of_le_of_lt (Nat.min_le_right _ _) (by decide)

/-- For every number of samples that there is room for, and every period, robot and ticker, the
first round that ends a recording settles it. The recording at the pace of waits gives the same and
reports the same if the waits succeed and leave the temperature alone, and the ticker never
cancels: its deeds are those of the other, with one wait of the whole milliseconds of the period
after every sample. The simulated robot is such a robot while it is connected and no fault strikes
its waits. Every word counts few enough samples. A number of samples without room begins no
recording at either pace. -/
theorem recording_settled_and_paces_agree (period number : Nat) (before : World ρ τ) :
    (∀ fits : number * sampleBytes ≤ mostBytes,
      let requested : Count := ⟨number, fits⟩
      let ticked : Act ρ τ Series := withTicker period requested
      withTicker? period number = some ticked ∧ Settled period requested before ∧
      ∀ waiting : World ρ τ', waiting.robot = before.robot → Patient before.robot →
        Ticker.Steady period before.ticker →
          ∃ waited : Act ρ τ' Series, withWaits? period number = some waited ∧
            Act.answer waited waiting = Act.answer ticked before ∧
            waited.deeds waiting = spaced period (ticked.deeds before) ∧
            (waited.deeds waiting).events = (ticked.deeds before).events) ∧
    (waitOf period).toNat = min (period / oneMillisecond) (UInt32.size - 1) ∧
    (∀ robot : SimulatedRobot, robot.connected = true → robot.failing ≠ some "wait" →
      Patient robot) ∧
    (∀ word : UInt32, Count.reserve? word.toNat = some (.ofWord word)) ∧
    (sampleBytes = 8 ∧ mostBytes = 9223372036854775807) ∧
    (mostBytes < number * sampleBytes →
      (withTicker? period number : Option (Act ρ τ Series)) = none ∧
        (withWaits? period number : Option (Act ρ τ' Series)) = none) := by
  refine ⟨?_, toNat_waitOf period, fun robot => robot.patient,
    fun word => Count.reserve?_number (.ofWord word), ⟨rfl, rfl⟩, ?_⟩
  · intro fits requested ticked
    have room : Count.reserve? number = some requested := Count.reserve?_number requested
    refine ⟨by rw [withTicker?, room, Option.map_some], settled period requested before, ?_⟩
    intro waiting alike patient steady
    obtain ⟨answer, gain, deeds, deeds'⟩ := agree_withWaits period requested alike patient steady
    have apart : Act.deeds (withWaits period requested) waiting =
        spaced period (ticked.deeds before) := by
      rw [Act.deeds_eq deeds, Act.deeds_eq deeds']
    have begun :
        withWaits? period number = some (withWaits period requested : Act ρ τ' Series) := by
      rw [withWaits?, room, Option.map_some]
    refine ⟨withWaits period requested, begun, answer, apart, ?_⟩
    rw [apart, events_spaced]
  · intro many
    have full := Count.reserve?_eq_none_iff.mpr many
    rw [withTicker?, withWaits?, full]
    exact ⟨rfl, rfl⟩

/-- Two samples of a connected robot at a second each, with a ticker that has no limit. One sample
more than there can be room for is too many. -/
theorem paces_agree_for_simulated :
    let start : World SimulatedRobot ManualTicker := ⟨{ connected := true }, {}, #[], 0⟩
    let recording := fun number : Nat =>
      (withWaits? oneSecond number : Option (Act SimulatedRobot ManualTicker Series))
    ∃ (requested : Count) (waited : Act SimulatedRobot ManualTicker Series),
      requested.number = 2 ∧ Settled oneSecond requested start ∧ recording 2 = some waited ∧
      waited.deeds start = spaced oneSecond ((withTicker oneSecond requested).deeds start) ∧
      recording (mostBytes / sampleBytes + 1) = none := by
  intro start recording
  obtain ⟨settles, -⟩ :=
    @recording_settled_and_paces_agree _ _ ManualTicker _ _ oneSecond 2 start
  obtain ⟨-, -, -, -, -, refuses⟩ :=
    @recording_settled_and_paces_agree _ _ ManualTicker _ _ oneSecond
      (mostBytes / sampleBytes + 1) start
  have patient : Patient start.robot := SimulatedRobot.patient rfl (by decide)
  have steady : Ticker.Steady oneSecond start.ticker :=
    ManualTicker.steady rfl (by decide) oneSecond
  obtain ⟨-, settled, agree⟩ := settles (by decide)
  obtain ⟨waited, begun, -, deeds, -⟩ := agree start rfl patient steady
  exact ⟨_, waited, rfl, settled, begun, deeds, (refuses (by decide)).2⟩

/-- A connected robot whose temperature cannot be read. -/
def unreadable : World SimulatedRobot ManualTicker where
  robot := { connected := true, failing := some "temperature" }
  ticker := {}

/-- The first sample fails there, and its failure would be the result of a recording of any number
of samples. But for so many samples there is no room, and there is no recording at either pace. -/
theorem unrecorded_without_room :
    let number := mostBytes / sampleBytes + 1
    number = 1152921504606846976 ∧
      (Robot.perform .temperature unreadable.robot).result = .error (.readFailed "temperature") ∧
      (¬∃ ticked : Act SimulatedRobot ManualTicker Series,
        withTicker? oneSecond number = some ticked ∧
          Act.answer ticked unreadable = .error (.readFailed "temperature")) ∧
      ¬∃ waited : Act SimulatedRobot ManualTicker Series,
        withWaits? oneSecond number = some waited ∧
          Act.answer waited unreadable = .error (.readFailed "temperature") := by
  intro number
  have full : Count.reserve? number = none := Count.reserve?_eq_none_iff.mpr (by decide)
  refine ⟨by decide, rfl, ?_, ?_⟩
  · rintro ⟨ticked, begun, -⟩
    rw [withTicker?, full] at begun
    cases begun
  · rintro ⟨waited, begun, -⟩
    rw [withWaits?, full] at begun
    cases begun

end Recording

end Rover
