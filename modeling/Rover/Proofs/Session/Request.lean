import Rover.Proofs.Checks
import Rover.Proofs.Config.Valid
import Rover.Proofs.Monitor.Ending
import Rover.Proofs.Performance

/-!
# Requests of an operator

A session is used through requests, one after the other and in any order. A failed request is
not the end of a session: the next one finds the session and the robot as the failure left them.
-/

namespace Rover

/-- What an operator can ask for. Every request may come with another ticker. -/
inductive Request (τ : Type) where
  | connect
  | disconnect
  | reset
  | enterParameters (speed brightness wait : String)
  | setParameters (parameters : Parameters) (bounded : parameters.WF)
  | setProgram (program : Program)
  | runProgram
  | monitorLight (sensor : LightSensor) (settings : MonitorSettings)
  | monitorTemperature (settings : MonitorSettings)
  | recordTemperature (count : UInt32) (period : Nat)
  | lightAndSound (top : UInt32)
  | dance
  | mixingItUp
  | replaceTicker (ticker : τ)

namespace Request

variable {ρ τ : Type} [Robot ρ] [Ticker τ]

/-- The desk that a request leaves, whether it succeeds or fails. -/
def serve : Request τ → Desk ρ τ → Desk ρ τ
  | .connect => Act.leaves Session.connect
  | .disconnect => Act.leaves Session.disconnect
  | .reset => Act.leaves Session.reset
  | .enterParameters speed brightness wait =>
    Act.leaves (Session.enterParameters speed brightness wait)
  | .setParameters parameters _ => Act.leaves (Session.setParameters parameters)
  | .setProgram program => Act.leaves (Session.setProgram program)
  | .runProgram => Act.leaves Session.runProgram
  | .monitorLight sensor settings => Act.leaves (Session.monitorLight sensor settings)
  | .monitorTemperature settings => Act.leaves (Session.monitorTemperature settings)
  | .recordTemperature count period => Act.leaves (Session.recordTemperature count period)
  | .lightAndSound top => Act.leaves (Operation.act (Performance.lightAndSound top))
  | .dance => Act.leaves (Operation.act Performance.dance)
  | .mixingItUp => Act.leaves (Operation.act Performance.mixingItUp)
  | .replaceTicker ticker => fun desk => { desk with world := { desk.world with ticker } }

/-- The desk after requests in order. -/
def serveAll (requests : List (Request τ)) (desk : Desk ρ τ) : Desk ρ τ :=
  requests.foldl (fun desk request => request.serve desk) desk

@[simp] theorem serveAll_nil (desk : Desk ρ τ) : serveAll [] desk = desk := rfl

@[simp] theorem serveAll_concat (requests : List (Request τ)) (last : Request τ)
    (desk : Desk ρ τ) :
    serveAll (requests ++ [last]) desk = last.serve (serveAll requests desk) := by
  simp [serveAll]

end Request

namespace Operation

variable {ρ τ α : Type}

theorem act_of_ok {action : Act ρ τ α} {desk : Desk ρ τ} {value : α} {after : World ρ τ}
    (ran : action desk.world = .ok value after) :
    act action desk = .ok value ⟨desk.session, after⟩ := by
  rw [act_eq, ran]

theorem act_of_error {action : Act ρ τ α} {desk : Desk ρ τ} {error : DeviceError}
    {after : World ρ τ} (ran : action desk.world = .error error after) :
    act action desk = .error (.device error) ⟨desk.session, after⟩ := by
  rw [act_eq, ran]

@[simp] theorem leaves_act (action : Act ρ τ α) (desk : Desk ρ τ) :
    Act.leaves (act action) desk = ⟨desk.session, Act.leaves action desk.world⟩ := by
  cases ran : action desk.world with
  | ok value after => rw [Act.leaves_of_ok (act_of_ok ran), Act.leaves_of_ok ran]
  | error error after => rw [Act.leaves_of_error (act_of_error ran), Act.leaves_of_error ran]

theorem session_leaves_act (action : Act ρ τ α) (desk : Desk ρ τ) :
    (Act.leaves (act action) desk).session = desk.session := by
  rw [leaves_act]

end Operation

/-- A session is opened just with valid settings whose initial parameters are within their bounds,
and then it is fresh. -/
theorem Session.open_eq_ok_iff {config : Config} {session : Session} :
    Session.open? config = .ok session ↔
      config.validate = .ok () ∧ ∃ parameters,
        Parameters.ofValues config.motorSpeed config.ledBrightness config.waitSeconds =
          .ok parameters ∧
        session = .start config parameters := by
  simp only [Session.open?, Except.bind_eq_ok_iff, Except.mapError_eq_ok_iff]
  constructor
  · rintro ⟨⟨⟩, valid, parameters, typed, ⟨⟩⟩
    exact ⟨valid, parameters, typed, rfl⟩
  · rintro ⟨valid, parameters, typed, rfl⟩
    exact ⟨(), valid, parameters, typed, rfl⟩

/-- The session of an operator who keeps no settings. -/
def Session.standard : Session := .start .standard ⟨100, 255, .ofNat 1⟩

theorem Session.open_standard : Session.open? .standard = .ok .standard := by
  obtain ⟨speed, wait, -, -⟩ := Config.validate_eq_ok_iff.mp Config.validate_standard
  rw [Session.open_eq_ok_iff]
  exact ⟨Config.validate_standard, _, Parameters.ofValues_eq_ok_iff.mpr ⟨rfl, speed, wait⟩, rfl⟩

end Rover
