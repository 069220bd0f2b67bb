import Rover.Proofs.CommandLine.Pipeline

/-!
# Parameters given on the command line

Parameters that are not given are entered as they are shown, which leaves them as they are
configured. So a run fails for its parameters only with one that was given.
-/

namespace Rover

/-- What is accepted as it is shown is refused only if it was entered otherwise. -/
theorem Entry.refusal?_getD {α : Type} [EntryNumber α] {least greatest configured : α}
    {shown : String} (again : inRange least greatest shown = .ok configured)
    (entered? : Option String) :
    refusal? least greatest (entered?.getD shown) = entered?.bind (refusal? least greatest) := by
  cases entered? with
  | some raw => rfl
  | none => exact refusal?_eq_none_iff.mpr ⟨configured, again⟩

namespace CommandLine

variable {config : Config}

/-- Why the first parameter that was given is refused, if one is. -/
def Arguments.refusal? (arguments : Arguments) : Option EntryError :=
  Parameters.firstRefusal? (arguments.value? .speed) (arguments.value? .brightness)
    (arguments.value? .wait)

/-- Of the entries that are made, those that were not given are not refused. -/
theorem entered_eq_error_iff {arguments : Arguments} (valid : config.validate = .ok ())
    {refusal : EntryError} :
    arguments.entered config = .error refusal ↔ arguments.refusal? = some refusal := by
  obtain ⟨speed, wait, -, -⟩ := Config.validate_eq_ok_iff.mp valid
  rw [Arguments.entered, Parameters.ofEntries_eq_error_iff, Arguments.refusal?,
    Parameters.firstRefusal?, Option.bind_some, Option.bind_some, Option.bind_some,
    Entry.refusal?_getD (Parameters.inRange_shown_speed speed),
    Entry.refusal?_getD (Parameters.inRange_shown_brightness _),
    Entry.refusal?_getD (Parameters.inRange_shown_wait wait)]
  rfl

theorem exists_sets_of_unrefused {arguments : Arguments} (valid : config.validate = .ok ())
    (unrefused : arguments.refusal? = none) : ∃ parameters, arguments.Sets config parameters := by
  cases entered : arguments.entered config with
  | ok parameters => exact ⟨parameters, (entered_eq_ok_iff valid).mp entered⟩
  | error refusal =>
      rw [entered_eq_error_iff valid, unrefused] at entered
      cases entered

theorem refusal?_of_absent {arguments : Arguments} (absent : entersParameters arguments = false) :
    arguments.refusal? = none := by
  obtain ⟨speed, brightness, wait⟩ := entersParameters_eq_false_iff.mp absent
  rw [Arguments.refusal?, speed, brightness, wait]
  rfl

theorem enterParameters_of_refusal {arguments : Arguments} (valid : config.validate = .ok ())
    {refusal : EntryError} (refused : arguments.refusal? = some refusal) (desk : CommandDesk)
    (initial : desk.session.parameters = initialParameters config) :
    enterParameters arguments desk =
      .error ⟨some "invalid parameters", (Error.entry refusal).message⟩ desk := by
  cases given : entersParameters arguments with
  | false =>
      rw [refusal?_of_absent given] at refused
      cases refused
  | true =>
      rw [enterParameters_of_given given initial, (entered_eq_error_iff valid).mpr refused]
      rfl

/-- A run whose parameters are refused ends with that, before the robot is looked for. -/
theorem run_of_refusal {arguments : Arguments} {stored : Config.Stored}
    (loads : (Config.load (arguments.value .config) stored).1 = .ok config) {refusal : EntryError}
    (refused : arguments.refusal? = some refusal) :
    (run arguments stored).failure =
        some ⟨some "invalid parameters", (Error.entry refusal).message⟩ ∧
      (run arguments stored).journal.deeds = [] := by
  obtain ⟨notices, reports⟩ := run_of_load_ok loads
  have failed := enterParameters_of_refusal (Config.validate_of_load loads) refused
    (deskOf arguments (.start config (initialParameters config)) notices) rfl
  rw [reports, drive, Act.bind_of_error failed]
  exact ⟨rfl, Journal.deeds_notices notices⟩

/-- A session starts with the parameters that are configured. Of these the ones that are given on
the command line are replaced by what their entries say, and all others are kept exactly. If an
entry is invalid the run fails for the first such one, in the order of speed, brightness and wait,
and nothing has been done; an entry that is not given is never what it fails for. -/
theorem parameters_overridden (arguments : Arguments) (valid : config.validate = .ok ()) :
    (∀ session, Session.open? config = .ok session →
      session.parameters = initialParameters config) ∧
    (∀ desk : CommandDesk, desk.session.parameters = initialParameters config →
      (arguments.refusal? = none →
        ∃ (parameters : Parameters) (notices : List Notice), arguments.Sets config parameters ∧
          enterParameters arguments desk =
            .ok () ⟨{ desk.session with parameters }, desk.world.tell notices⟩) ∧
      ∀ refusal, arguments.refusal? = some refusal →
        enterParameters arguments desk =
          .error ⟨some "invalid parameters", (Error.entry refusal).message⟩ desk) ∧
    ∀ stored, (Config.load (arguments.value .config) stored).1 = .ok config →
      ∀ refusal, arguments.refusal? = some refusal →
        (run arguments stored).failure =
            some ⟨some "invalid parameters", (Error.entry refusal).message⟩ ∧
          (run arguments stored).journal.deeds = [] := by
  refine ⟨?_, fun desk initial => ⟨?_, fun refusal refused => ?_⟩, fun stored loads refusal =>
    run_of_refusal loads⟩
  · intro session opened
    obtain ⟨-, parameters, typed, rfl⟩ := Session.open_eq_ok_iff.mp opened
    exact (Parameters.ofValues_eq_ok_iff.mp typed).1
  · intro unrefused
    obtain ⟨parameters, sets⟩ := exists_sets_of_unrefused valid unrefused
    obtain ⟨notices, entered⟩ := enterParameters_of_sets valid desk initial sets
    exact ⟨parameters, notices, sets, entered⟩
  · exact enterParameters_of_refusal valid refused desk initial

/-- Only the speed is given: the wait stays a zero with a minus sign. Of two invalid entries the
first one is told. -/
theorem parameters_overridden_speed :
    let config : Config := { waitSeconds := .negativeZero }
    let desk : CommandDesk := deskOf ⟨[], false⟩ (.start config (initialParameters config)) []
    config.validate = .ok () ∧
      (∃ notices : List Notice, enterParameters ⟨[(.speed, "-7")], false⟩ desk = .ok ()
        ⟨{ desk.session with parameters := ⟨-7, 255, .negativeZero⟩ }, desk.world.tell notices⟩) ∧
      enterParameters ⟨[(.wait, "200"), (.brightness, "256")], false⟩ desk =
        .error ⟨some "invalid parameters", "validation: not a number"⟩ desk := by
  intro config desk
  have valid : config.validate = .ok () := by decide
  refine ⟨valid, ?_, ?_⟩
  · let arguments : Arguments := ⟨[(.speed, "-7")], false⟩
    have unrefused : arguments.refusal? = none := by decide +kernel
    obtain ⟨-, replaces, -⟩ := parameters_overridden arguments valid
    obtain ⟨⟨speed, brightness, wait⟩, notices, ⟨sameSpeed, sameBrightness, sameWait⟩, entered⟩ :=
      (replaces desk rfl).1 unrefused
    have read : Entry.inRange Parameters.leastSpeed Parameters.greatestSpeed "-7" = .ok (-7) :=
      @Parameters.inRange_shown_speed (-7) (by decide)
    have fast : speed = -7 := by
      change Entry.inRange _ _ "-7" = .ok speed at sameSpeed
      rw [read] at sameSpeed
      exact (Except.ok.inj sameSpeed).symm
    change brightness = 255 at sameBrightness
    change wait = .negativeZero at sameWait
    subst fast sameBrightness sameWait
    exact ⟨notices, entered⟩
  · let arguments : Arguments := ⟨[(.wait, "200"), (.brightness, "256")], false⟩
    obtain ⟨-, refuses, -⟩ := parameters_overridden arguments valid
    exact (refuses desk rfl).2 .notANumber (by decide +kernel)

end CommandLine

end Rover
