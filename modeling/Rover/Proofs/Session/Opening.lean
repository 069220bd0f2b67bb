import Rover.Proofs.Config.Loading
import Rover.Proofs.Session.Request

/-!
# Opening a session

A configuration is checked as a whole, and its parameters are then checked once more by themselves.
Both checks look at the same bounds in the same order, so the second one has nothing left to refuse:
what opens a session is exactly what the first one accepts.
-/

namespace Rover

open Config

/-- Of the fields that are looked at, the parameters are refused for the first one just if it is one
of theirs. -/
theorem Parameters.ofValues_eq_find? (config : Config) :
    ofValues config.motorSpeed config.ledBrightness config.waitSeconds =
      match bounded.find? fun field => ¬ field.Within config with
      | some .motorSpeed => .error (.outOfRange (.ofInt (-255)) (.ofInt 255))
      | some .waitSeconds => .error (.outOfRange .zero (.ofNat 180))
      | _ => .ok ⟨config.motorSpeed, config.ledBrightness, config.waitSeconds⟩ := by
  simp only [ofValues, Field.not_speedInBounds, Field.not_waitInBounds, bounded, List.find?_cons,
    List.find?_nil]
  generalize decide (¬ Field.Within config .motorSpeed) = fast
  generalize decide (¬ Field.Within config .waitSeconds) = long
  generalize decide (¬ Field.Within config .alarmHertz) = silent
  generalize decide (¬ Field.Within config .connectAttempts) = idle
  cases fast with
  | true => rfl
  | false =>
      cases long with
      | true => rfl
      | false =>
          -- The two fields that follow are none of the parameters.
          cases silent with
          | true => rfl
          | false => cases idle <;> rfl

/-- Valid settings hold valid parameters. -/
theorem Parameters.ofValues_of_validate {config : Config} (valid : config.validate = .ok ()) :
    ofValues config.motorSpeed config.ledBrightness config.waitSeconds =
      .ok ⟨config.motorSpeed, config.ledBrightness, config.waitSeconds⟩ := by
  obtain ⟨speed, wait, -, -⟩ := validate_eq_ok_iff.mp valid
  exact ofValues_eq_ok_iff.mpr ⟨rfl, speed, wait⟩

namespace Session

/-- The session of an operator who has entered nothing yet. -/
def fresh (config : Config) : Session where
  config := config
  holds := ⟨config.ledStepMillis, config.danceStepMillis⟩
  alarmTone := ⟨config.alarmHertz, config.alarmMillis⟩
  parameters := ⟨config.motorSpeed, config.ledBrightness, config.waitSeconds⟩
  program := []
  connected := false

variable {config : Config}

theorem open_of_valid (valid : config.validate = .ok ()) : open? config = .ok (fresh config) :=
  open_eq_ok_iff.mpr ⟨valid, _, Parameters.ofValues_of_validate valid, rfl⟩

theorem open_of_invalid {error : ConfigError} (invalid : config.validate = .error error) :
    open? config = .error (.config error) := by
  rw [open?, invalid]
  rfl

/-- A session opens on just the configurations that are valid, and then it is fresh. What is refused
is refused for what is wrong with the configuration, and never for an entry, as the parameters are
refused just for a speed or a wait that is out of its bounds, the speed being looked at first. So
what is loaded, from whatever is stored, opens a session. -/
theorem open_eq_validate (config : Config) :
    (open? config = match config.validate with
      | .ok () => .ok (fresh config)
      | .error error => .error (.config error)) ∧
    ((∃ session, open? config = .ok session) ↔ config.validate = .ok ()) ∧
    (∀ error, open? config = .error (.config error) ↔ config.validate = .error error) ∧
    (∀ error, open? config ≠ .error (.entry error)) ∧
    (Parameters.ofValues config.motorSpeed config.ledBrightness config.waitSeconds =
      match bounded.find? fun field => ¬ field.Within config with
      | some .motorSpeed => .error (.outOfRange (.ofInt (-255)) (.ofInt 255))
      | some .waitSeconds => .error (.outOfRange .zero (.ofNat 180))
      | _ => .ok (fresh config).parameters) ∧
    ∀ path stored, (load path stored).1 = .ok config → open? config = .ok (fresh config) := by
  have opens : open? config = match config.validate with
      | .ok () => .ok (fresh config)
      | .error error => .error (.config error) := by
    cases checked : config.validate with
    | ok => exact open_of_valid checked
    | error error => exact open_of_invalid checked
  refine ⟨opens, ?_, ?_, ?_, Parameters.ofValues_eq_find? config,
    fun _ _ loads => open_of_valid (validate_of_load loads)⟩
  all_goals
    rw [opens]
    cases config.validate with
    | ok => simp
    | error error => simp

/-- A loaded configuration opens a session with its wait and its speed. A wait that is no number is
refused before the parameters are looked at, and so is a speed below its bounds next to it. -/
theorem open_loaded :
    (load "finch.json" (.text "\x7b\"default_motor_speed\":-255,\"default_wait_secs\":-0\x7d")).1 =
        .ok { standard with motorSpeed := -255, waitSeconds := .negativeZero } ∧
      open? { standard with motorSpeed := -255, waitSeconds := .negativeZero } =
        .ok ⟨{ standard with motorSpeed := -255, waitSeconds := .negativeZero }, ⟨333, 500⟩,
          ⟨1000, 1000⟩, ⟨-255, 255, .negativeZero⟩, [], false⟩ ∧
      open? { standard with waitSeconds := .nan } =
        .error (.config (.validationFailed "default_wait_secs")) ∧
      open? { standard with motorSpeed := -256, waitSeconds := .nan } =
        .error (.config (.validationFailed "default_motor_speed")) := by
  have loads : (load "finch.json"
      (.text "\x7b\"default_motor_speed\":-255,\"default_wait_secs\":-0\x7d")).1 =
        .ok { standard with motorSpeed := -255, waitSeconds := .negativeZero } := by decide +kernel
  have noNumber : ({ standard with waitSeconds := .nan } : Config).validate =
      .error (.validationFailed "default_wait_secs") := by decide +kernel
  have slow : ({ standard with motorSpeed := -256, waitSeconds := .nan } : Config).validate =
      .error (.validationFailed "default_motor_speed") := by decide +kernel
  exact ⟨loads, (open_eq_validate _).2.2.2.2.2 _ _ loads,
    ((open_eq_validate _).2.2.1 _).mpr noNumber, ((open_eq_validate _).2.2.1 _).mpr slow⟩

end Session

end Rover
