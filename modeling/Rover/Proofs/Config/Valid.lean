import Rover.Config.Stored
import Rover.Proofs.Parameters

/-!
# Configurations within their bounds

What is refused names a field, and what is accepted has all its fields within their bounds.
-/

namespace Rover

namespace Parameters

theorem isFinite_of_waitInBounds {wait : Binary64}
    (within : waitInBounds wait = true) : wait.isFinite = true := by
  rcases wait_number_cases within with ⟨negative, rfl⟩ | ⟨rank, rfl, -, finite, -⟩
  · exact decide_eq_true (Rank.lt_infinity (show Rank.zero ≠ .infinity by decide))
  · exact decide_eq_true (Rank.lt_infinity finite)

end Parameters

namespace Config

open Parameters

variable {config : Config}

theorem validate_cases (config : Config) :
    config.validate = .ok () ∨ ∃ field, config.validate = .error (.validationFailed field) := by
  rw [validate]
  cases config.firstBadField? with
  | none => exact .inl rfl
  | some field => exact .inr ⟨field, rfl⟩

theorem validate_eq_ok_iff :
    config.validate = .ok () ↔ speedInBounds config.motorSpeed = true ∧
      waitInBounds config.waitSeconds = true ∧ config.alarmHertz ≠ 0 ∧
      config.connectAttempts ≠ 0 := by
  have accepted : config.validate = .ok () ↔ config.firstBadField? = none := by
    rw [validate]
    cases config.firstBadField? with
    | none => exact iff_of_true rfl rfl
    | some field => exact iff_of_false (by rintro ⟨⟩) (by rintro ⟨⟩)
  rw [accepted, firstBadField?]
  cases speed : speedInBounds config.motorSpeed with
  | false => simp
  | true =>
      cases wait : waitInBounds config.waitSeconds with
      | false => simp
      | true =>
          by_cases alarm : config.alarmHertz = 0
          · simp [isFinite_of_waitInBounds wait, alarm]
          · simp [isFinite_of_waitInBounds wait, alarm]

theorem validate_standard : standard.validate = .ok () := by
  rw [validate_eq_ok_iff]
  refine ⟨by decide, ?_, by decide, by decide⟩
  exact waitInBounds_of_le (Rank.ofNat_le_ofNat (show 1 ≤ 180 by decide))

/-- What is loaded is within its bounds. -/
theorem validate_of_load {path : String} {stored : Stored} {config : Config}
    (loads : (load path stored).1 = .ok config) : config.validate = .ok () := by
  cases stored with
  | absent =>
      cases loads
      exact validate_standard
  | text content =>
      rw [load] at loads
      split at loads
      next => cases loads
      next read =>
        split at loads
        next => cases loads
        next valid =>
          cases loads
          exact valid
  | undecodable | blocked => cases loads

end Config

end Rover
