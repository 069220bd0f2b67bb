import Rover.CommandLine.Run
import Rover.Proofs.Program.Text
import Rover.Proofs.Session.Parameters
import Rover.Proofs.Session.Request

/-!
# Preparing a run

Before the robot is looked for, a run settles its configuration, its parameters and its program.
Entries given on the command line replace what is configured, and nothing else is replaced.
-/

namespace Rover

namespace CommandLine

/-- The value is the one that was entered, or the configured one if none was. -/
def Replaces {α : Type} (accept : String → Except EntryError α) (configured : α) :
    (entered? : Option String) → (value : α) → Prop
  | none, value => value = configured
  | some raw, value => accept raw = .ok value

namespace Arguments

/-- The parameters are the configured ones but for the entries that replace them. -/
structure Sets (arguments : Arguments) (config : Config) (parameters : Parameters) : Prop where
  speed : Replaces (Entry.inRange Parameters.leastSpeed Parameters.greatestSpeed)
    config.motorSpeed (arguments.value? .speed) parameters.motorSpeed
  brightness : Replaces (Entry.inRange (0 : UInt8) 255)
    config.ledBrightness (arguments.value? .brightness) parameters.ledBrightness
  wait : Replaces (Entry.inRange Parameters.leastWait Parameters.greatestWait)
    config.waitSeconds (arguments.value? .wait) parameters.waitSeconds

/-- The entries of the program that count. -/
def programEntries (arguments : Arguments) : List String :=
  match arguments.value? .program with
  | none => []
  | some text => Program.beforeDone (Program.entries text)

/-- The program that is given, which can be empty. -/
def program (arguments : Arguments) : Program := Program.named arguments.programEntries

end Arguments

/-- To enter what is shown of the configured value is to leave it as it is. -/
theorem replaces_iff {α : Type} {accept : String → Except EntryError α} {configured value : α}
    {shown : String} (again : accept shown = .ok configured) (entered? : Option String) :
    accept (entered?.getD shown) = .ok value ↔ Replaces accept configured entered? value := by
  cases entered? with
  | some raw => exact Iff.rfl
  | none =>
      rw [Option.getD_none, again]
      exact ⟨fun same => (Except.ok.inj same).symm, fun same => congrArg Except.ok same.symm⟩

variable {arguments : Arguments} {config : Config}

/-- What comes of all three entries, those that are not given being what is shown. -/
def Arguments.entered (arguments : Arguments) (config : Config) : Except EntryError Parameters :=
  Parameters.ofEntries ((arguments.value? .speed).getD (toString config.motorSpeed.toInt))
    ((arguments.value? .brightness).getD (toString config.ledBrightness.toNat))
    ((arguments.value? .wait).getD config.waitSeconds.text)

theorem entered_eq_ok_iff (valid : config.validate = .ok ()) {parameters : Parameters} :
    arguments.entered config = .ok parameters ↔ arguments.Sets config parameters := by
  obtain ⟨speed, wait, -, -⟩ := Config.validate_eq_ok_iff.mp valid
  rw [Arguments.entered, Parameters.ofEntries_eq_ok_iff,
    replaces_iff (Parameters.inRange_shown_speed speed),
    replaces_iff (Parameters.inRange_shown_brightness _),
    replaces_iff (Parameters.inRange_shown_wait wait)]
  exact ⟨fun ⟨speed, brightness, wait⟩ => ⟨speed, brightness, wait⟩,
    fun sets => ⟨sets.speed, sets.brightness, sets.wait⟩⟩

/-- The parameters that a configuration starts with. -/
def initialParameters (config : Config) : Parameters :=
  ⟨config.motorSpeed, config.ledBrightness, config.waitSeconds⟩

/-- Whether something is entered for the parameters at all. -/
def entersParameters (arguments : Arguments) : Bool :=
  (arguments.value? .speed).isSome || (arguments.value? .brightness).isSome ||
    (arguments.value? .wait).isSome

theorem entersParameters_eq_false_iff : entersParameters arguments = false ↔
    arguments.value? .speed = none ∧ arguments.value? .brightness = none ∧
      arguments.value? .wait = none := by
  simp only [entersParameters, Bool.or_eq_false_iff, Option.isSome_eq_false_iff,
    Option.isNone_iff_eq_none, and_assoc]

theorem enterParameters_of_absent (absent : entersParameters arguments = false)
    (desk : CommandDesk) : enterParameters arguments desk = .ok () desk := by
  rw [entersParameters] at absent
  rw [enterParameters]
  simp only [absent]
  rfl

theorem enterParameters_of_given (given : entersParameters arguments = true) {desk : CommandDesk}
    (initial : desk.session.parameters = initialParameters config) :
    enterParameters arguments desk =
      Stage.operate (some "invalid parameters") (match arguments.entered config with
        | .error error => throw (.entry error)
        | .ok parameters => Session.setParameters parameters) desk := by
  rw [entersParameters] at given
  rw [enterParameters]
  simp only [given]
  change Stage.operate (some "invalid parameters") (Session.enterParameters
    ((arguments.value? .speed).getD (toString desk.session.parameters.motorSpeed.toInt))
    ((arguments.value? .brightness).getD (toString desk.session.parameters.ledBrightness.toNat))
    ((arguments.value? .wait).getD desk.session.parameters.waitSeconds.text)) desk = _
  rw [initial]
  rfl

/-- Without entries for them the parameters stay as they are configured. -/
theorem sets_iff_of_absent (absent : entersParameters arguments = false) {parameters : Parameters} :
    arguments.Sets config parameters ↔ parameters = initialParameters config := by
  obtain ⟨speed, brightness, wait⟩ := entersParameters_eq_false_iff.mp absent
  constructor
  · rintro ⟨sameSpeed, sameBrightness, sameWait⟩
    rw [speed] at sameSpeed
    rw [brightness] at sameBrightness
    rw [wait] at sameWait
    exact congr (congr (congrArg Parameters.mk sameSpeed) sameBrightness) sameWait
  · rintro rfl
    constructor
    · rw [speed]
      rfl
    · rw [brightness]
      rfl
    · rw [wait]
      rfl

theorem enterParameters_of_sets (valid : config.validate = .ok ()) (desk : CommandDesk)
    (initial : desk.session.parameters = initialParameters config) {parameters : Parameters}
    (sets : arguments.Sets config parameters) :
    ∃ notices : List Notice, enterParameters arguments desk =
      .ok () ⟨{ desk.session with parameters }, desk.world.tell notices⟩ := by
  cases given : entersParameters arguments with
  | false =>
      refine ⟨[], ?_⟩
      rw [enterParameters_of_absent given, (sets_iff_of_absent given).mp sets, ← initial]
      rfl
  | true =>
      rw [enterParameters_of_given given initial, (entered_eq_ok_iff valid).mpr sets]
      exact ⟨[_], rfl⟩

theorem enterParameters_of_not_sets (valid : config.validate = .ok ()) (desk : CommandDesk)
    (initial : desk.session.parameters = initialParameters config)
    (refused : ¬∃ parameters, arguments.Sets config parameters) :
    ∃ failure, enterParameters arguments desk = .error failure desk := by
  cases given : entersParameters arguments with
  | false => exact absurd ⟨_, (sets_iff_of_absent given).mpr rfl⟩ refused
  | true =>
      rw [enterParameters_of_given given initial]
      cases entered : arguments.entered config with
      | error error => exact ⟨_, rfl⟩
      | ok parameters =>
          exact absurd ⟨parameters, (entered_eq_ok_iff valid).mp entered⟩ refused

theorem loadProgram_of_recognized (desk : CommandDesk) (fresh : desk.session.program = [])
    (recognized : Program.Recognized arguments.programEntries) :
    ∃ notices : List Notice, loadProgram arguments desk =
      .ok () ⟨{ desk.session with program := arguments.program }, desk.world.tell notices⟩ := by
  rw [loadProgram, Arguments.program]
  rw [Arguments.programEntries] at recognized ⊢
  cases given : arguments.value? .program with
  | none =>
      refine ⟨[], ?_⟩
      change EStateM.Result.ok () desk = .ok () ⟨{ desk.session with program := [] }, desk.world⟩
      rw [← fresh]
  | some text =>
      rw [given] at recognized
      simp only [Program.ofText_eq_ok_iff.mpr ⟨recognized, rfl⟩]
      exact ⟨[_], rfl⟩

theorem loadProgram_of_not_recognized (desk : CommandDesk)
    (refused : ¬Program.Recognized arguments.programEntries) :
    ∃ failure, loadProgram arguments desk = .error failure desk := by
  rw [loadProgram]
  rw [Arguments.programEntries] at refused
  cases given : arguments.value? .program with
  | none =>
      rw [given] at refused
      exact absurd (fun _ inside => absurd inside List.not_mem_nil) refused
  | some text =>
      rw [given] at refused
      cases read : Program.ofText text with
      | error error =>
          simp only [read]
          exact ⟨_, rfl⟩
      | ok program => exact absurd (Program.ofText_eq_ok_iff.mp read).1 refused

end CommandLine

end Rover
