import Rover.Proofs.Session.Calls

/-!
# The contract of the calls

The robot is promised motor power within its range and tones that can be heard. No call checks
that: it rests on what every way to enter parameters lets pass, on what a configuration has to
be, and on the arithmetic of the recipes.
-/

namespace Rover

/-- What the robot is promised of the arguments of a call. -/
def Call.WithinContract : Call → Prop
  | .setMotors left right => IsPower left ∧ IsPower right
  | .noteOn hertz => 1 ≤ hertz.toNat
  | .connect | .disconnect | .setLed _ | .noteOff | .wait _ | .temperature | .leftLight
  | .rightLight => True

instance : (call : Call) → Decidable call.WithinContract
  | .setMotors .. => inferInstanceAs (Decidable (_ ∧ _))
  | .noteOn hertz => inferInstanceAs (Decidable (1 ≤ hertz.toNat))
  | .connect | .disconnect | .setLed _ | .noteOff | .wait _ | .temperature | .leftLight
  | .rightLight => inferInstanceAs (Decidable True)

/-! ## Parameters of a run -/

/-- What a run relies on: the parameters are within their bounds, no speed that is made from the
motor speed overflows, and neither the wait nor a repeat count is too long. -/
structure Parameters.Sound (parameters : Parameters) : Prop where
  speed : IsPower parameters.motorSpeed
  wait : parameters.waitSeconds.Between false 0 180 ∨ parameters.waitSeconds = .negativeZero
  reversed : (-parameters.motorSpeed).toInt = -parameters.motorSpeed.toInt
  quarter : parameters.quarterSpeed.toInt = parameters.motorSpeed.toInt.tdiv 4
  spin : parameters.spinSpeed.toInt = (parameters.motorSpeed.toInt * 3).tdiv 4
  reversedSpin : (-parameters.spinSpeed).toInt = -parameters.spinSpeed.toInt
  hold : parameters.waitMillis.toNat ≤ 180000
  repeats : parameters.wholeWaitSeconds.toNat ≤ 180

theorem Parameters.WF.sound {parameters : Parameters} (bounded : parameters.WF) :
    parameters.Sound := by
  have speed := (speedInBounds_iff _).mp bounded.1
  refine ⟨speed, wait_cases bounded.2, speed.toInt_neg, ?_, ?_, ?_, waitMillis_le bounded.2,
    wholeWaitSeconds_le bounded.2⟩
  · rw [Program.quarterSpeed_eq, speed.toInt_quarters (by decide) (by decide), Int.mul_one]
  · rw [Program.spinSpeed_eq, speed.toInt_quarters (by decide) (by decide)]
  · rw [Program.spinSpeed_eq]
    exact (speed.quarters (by decide) (by decide)).toInt_neg

/-- A session has a configuration and what is taken over from it. -/
structure Session.Has (session : Session) (origin : Config) : Prop where
  config : session.config = origin
  holds : session.holds = .ofConfig origin
  alarmTone : session.alarmTone = .ofConfig origin

theorem Session.Has.evolves {origin : Config} {before after : Session}
    (has : before.Has origin) (evolves : before.Evolves after) : after.Has origin where
  config := evolves.config.trans has.config
  holds := evolves.holds.trans has.holds
  alarmTone := evolves.alarmTone.trans has.alarmTone

/-- An opened session has its configuration, and its parameters are those of the configuration,
which were checked. -/
theorem Session.has_of_open {config : Config} {session : Session}
    (opened : open? config = .ok session) :
    session.Has config ∧ session.parameters.WF ∧ config.alarmHertz ≠ 0 := by
  obtain ⟨valid, parameters, typed, rfl⟩ := open_eq_ok_iff.mp opened
  exact ⟨⟨rfl, rfl, rfl⟩, (Parameters.ofValues_eq_ok_iff.mp typed).2,
    (Config.validate_eq_ok_iff.mp valid).2.2.1⟩

/-! ## Calls of single requests -/

namespace Program

theorem forall_mem_repeated {allowed : Call → Prop} {cycle : List Call}
    (every : ∀ call ∈ cycle, allowed call) (count : Nat) :
    ∀ call ∈ (List.replicate count cycle).flatten, allowed call := by
  intro call inside
  obtain ⟨copy, copies, among⟩ := List.mem_flatten.mp inside
  rw [List.eq_of_mem_replicate copies] at among
  exact every call among

/-- Only the motor speed and what is made from it drive the motors, and every tone is fixed. -/
theorem withinContract_recipe (holds : Holds) {parameters : Parameters}
    (speed : IsPower parameters.motorSpeed) (command : Command) :
    ∀ call ∈ recipe holds parameters command, call.WithinContract := by
  have stopped : IsPower 0 := by decide
  have quarter := speed.quarters (show (0 : Int) ≤ 1 by decide) (by decide)
  have spin := speed.quarters (show (0 : Int) ≤ 3 by decide) (by decide)
  cases command with
  | moveForward => simp [recipe, Call.WithinContract, speed]
  | moveBackward => simp [recipe, Call.WithinContract, speed.neg]
  | stopMotors => simp [recipe, Call.WithinContract, stopped]
  | turnRight | turnLeft => simp [recipe, Call.WithinContract, speed, quarter]
  | songAndDance => simp [recipe, Call.WithinContract, spin, spin.neg, stopped]
  | ledOn | getTemperature =>
      apply forall_mem_repeated
      simp [Call.WithinContract]
  | placeholder | wait | ledOff | done => simp [recipe, Call.WithinContract]

end Program

theorem Session.withinContract_restCalls : ∀ call ∈ restCalls, call.WithinContract := by decide

theorem Session.withinContract_programCalls {session : Session}
    (speed : IsPower session.parameters.motorSpeed) :
    ∀ call ∈ session.programCalls, call.WithinContract := by
  intro call inside
  rcases List.mem_flatMap.mp inside with ⟨command, -, among⟩
  exact Program.withinContract_recipe _ speed command call among

theorem Monitor.withinContract_watch {tone : AlarmTone} (audible : tone.hertz ≠ 0)
    (target : Target) : ∀ call ∈ target.calls ++ alarm tone, call.WithinContract := by
  have hertz : 1 ≤ tone.hertz.toNat := by
    rw [Nat.one_le_iff_ne_zero]
    intro silent
    exact audible (UInt32.toNat_inj.mp silent)
  rcases target with (_ | _ | _) | _ <;>
    simpa [Target.calls, alarm, Call.WithinContract] using hertz

namespace Performance

theorem between_pi : pi.Between false 3 4 :=
  ⟨_, rfl, by decide +kernel, by decide +kernel⟩

/-- The step is multiplied by more than three, and a tone past the end of the word is the highest
one. -/
theorem one_le_sweepTone {step : Nat} (start : sweepStart ≤ step)
    (fits : 4 * step ≤ 2 * binadeSize) : 1 ≤ (sweepTone step).toNat := by
  have start : 200 ≤ step := start
  have product := between_pi.mul (Binary64.between_ofNat step) (by decide) (Nat.le_refl _)
    (by decide) (by omega) (show 1 ≤ 3 * step by omega) (Nat.le_refl (4 * step)) fits
  have rounded := product.round (by omega) fits
  exact rounded.le_toUInt32 (by omega) fits (by decide)

/-- The steps stop short of the top, which is a word. -/
theorem one_le_sweepTones (top : UInt32) :
    ∀ tone ∈ sweepTones (sweepCount top.toNat) sweepStart, 1 ≤ tone.toNat := by
  intro tone inside
  rcases List.mem_map.mp inside with ⟨step, among, rfl⟩
  rcases List.mem_range'.mp among with ⟨index, below, rfl⟩
  have word := top.toNat_lt
  have counted : sweepCount top.toNat ≤ 0x100000000 := by
    rw [sweepCount, sweepStart, sweepStep]
    omega
  apply one_le_sweepTone
  · exact Nat.le_add_right _ _
  · rw [sweepStart, sweepStep, binadeSize]
    omega

theorem withinContract_toneCalls {tones : List UInt32} (audible : ∀ tone ∈ tones, 1 ≤ tone.toNat) :
    ∀ call ∈ tones.flatMap toneCalls, call.WithinContract := by
  intro call inside
  rcases List.mem_flatMap.mp inside with ⟨tone, listed, among⟩
  rcases List.mem_cons.mp among with rfl | waits
  · exact audible tone listed
  · rw [List.mem_singleton.mp waits]
    trivial

theorem withinContract_lightAndSoundScript (top : UInt32) :
    ∀ call ∈ lightAndSoundScript top, call.WithinContract := by
  rw [lightAndSoundScript, List.forall_mem_append, List.forall_mem_cons, List.forall_mem_append]
  exact ⟨withinContract_toneCalls (one_le_sweepTones top), trivial, by decide,
    Session.withinContract_restCalls⟩

theorem withinContract_danceScript : ∀ call ∈ danceScript, call.WithinContract := by decide

theorem withinContract_mixingItUpScript : ∀ call ∈ mixingItUpScript, call.WithinContract := by
  decide

end Performance

namespace Request

variable {ρ τ : Type}

theorem withinContract_calls {session : Session} (speed : IsPower session.parameters.motorSpeed)
    (audible : session.alarmTone.hertz ≠ 0) (request : Request τ) :
    ∀ call ∈ request.calls session, call.WithinContract := by
  cases request with
  | connect => simp [calls, Session.connectCalls, Session.shownCalls, Session.restCalls,
      Call.WithinContract, IsPower]
  | disconnect => simp [calls, Session.restCalls, Call.WithinContract, IsPower]
  | reset => exact Session.withinContract_restCalls
  | runProgram =>
      exact List.forall_mem_append.mpr
        ⟨Session.withinContract_programCalls speed, Session.withinContract_restCalls⟩
  | monitorLight sensor settings => exact Monitor.withinContract_watch audible (.light sensor)
  | monitorTemperature settings => exact Monitor.withinContract_watch audible .temperature
  | recordTemperature count period => simp [calls, Call.WithinContract]
  | lightAndSound top => exact Performance.withinContract_lightAndSoundScript top
  | dance => exact Performance.withinContract_danceScript
  | mixingItUp => exact Performance.withinContract_mixingItUpScript
  | enterParameters | setParameters | setProgram | replaceTicker => simp [calls]

variable [Robot ρ] [Ticker τ]

/-- What a run of the program does beyond trying its calls: it tries them in their order. -/
def Ordered (config : Config) (session : Session) (gain : Journal) : Prop :=
  ∃ ran rested, gain = ran ++ rested ∧
    ran.calls <+: session.program.flatMap (Program.recipe (.ofConfig config) session.parameters) ∧
    rested.calls <+: Session.restCalls

/-- In every state that an opened session can reach, by any requests, with any robot and any
ticker, the session still has the configuration that it was opened with, the holds of its programs
and the alarm of its monitors are still the configured ones, and its parameters are sound. So
whatever is asked next, only the calls of that request are tried, which are made from this
configuration, and all of them keep the contract. A run of the program tries its recipes in
order. -/
theorem serve_within_contract {config : Config} {session : Session}
    (opened : Session.open? config = .ok session) (world : World ρ τ)
    (earlier : List (Request τ)) (request : Request τ) :
    let before := serveAll earlier ⟨session, world⟩
    before.session.config = config ∧
    before.session.holds = ⟨config.ledStepMillis, config.danceStepMillis⟩ ∧
    before.session.alarmTone = ⟨config.alarmHertz, config.alarmMillis⟩ ∧
    before.session.parameters.Sound ∧
    ∃ gain, World.Leads gain before.world (request.serve before).world ∧
      (∀ call ∈ gain.calls, call ∈ request.calls before.session ∧ call.WithinContract) ∧
      (request = .runProgram → Ordered config before.session gain) := by
  intro before
  obtain ⟨has, bounded, audible⟩ := Session.has_of_open opened
  have evolves : session.Evolves before.session := (serveAll_leads earlier ⟨session, world⟩).session
  have settled : before.session.Has config := has.evolves evolves
  have sound := (evolves.wf bounded).sound
  obtain ⟨gain, leads, among⟩ := (request.serve_leads before).calls
  refine ⟨settled.config, settled.holds, settled.alarmTone, sound, gain, leads, ?_, ?_⟩
  · intro call tried
    refine ⟨among call tried, ?_⟩
    apply withinContract_calls sound.speed _ request call (among call tried)
    rwa [settled.alarmTone]
  · rintro rfl
    obtain ⟨ran, rested, leads', ranCalls, restedCalls⟩ := Session.runProgram_leads before
    rw [Session.programCalls, settled.holds] at ranCalls
    exact ⟨ran, rested, leads.unique leads', ranCalls, restedCalls⟩

/-- The song and dance at full speed backwards, entered by an operator. -/
theorem serve_within_contract_full_speed :
    let before : Desk SimulatedRobot ManualTicker :=
      serveAll [.connect, .enterParameters "-255" "0" "180", .setProgram [.songAndDance]]
        ⟨.standard, { robot := {}, ticker := {} }⟩
    before.session.parameters.motorSpeed = -255 ∧ before.session.parameters.spinSpeed = -191 ∧
    ∃ gain, World.Leads gain before.world (runProgram.serve before).world ∧
      ∀ call ∈ gain.calls, call.WithinContract := by
  intro before
  obtain ⟨-, -, -, -, gain, leads, keeps, -⟩ :=
    serve_within_contract Session.open_standard
      ({ robot := {}, ticker := {} } : World SimulatedRobot ManualTicker)
      [.connect, .enterParameters "-255" "0" "180", .setProgram [.songAndDance]] .runProgram
  have entered : before.session.parameters.motorSpeed = -255 ∧
      before.session.parameters.spinSpeed = -191 := by decide +kernel
  exact ⟨entered.1, entered.2, gain, leads, fun call tried => (keeps call tried).2⟩

end Request

end Rover
