/-!
# Checks in sequence

What is entered or stored goes through several checks, one after the other. They succeed together
just if each of them does in its turn, and what is told is the failure of the first one that does
not.
-/

namespace Rover

namespace Except

variable {ε ε' α β : Type} {check : Except ε α} {next : α → Except ε β}

theorem bind_eq_ok_iff {value : β} :
    check >>= next = .ok value ↔ ∃ between, check = .ok between ∧ next between = .ok value := by
  cases check <;> simp [bind, Except.bind]

theorem bind_eq_error_iff {error : ε} :
    check >>= next = .error error ↔
      check = .error error ∨ ∃ between, check = .ok between ∧ next between = .error error := by
  cases check <;> simp [bind, Except.bind]

/-- Another name for a failure makes no success. -/
theorem mapError_eq_ok_iff {rename : ε → ε'} {value : α} :
    check.mapError rename = .ok value ↔ check = .ok value := by
  cases check with
  | error error => exact iff_of_false (by rintro ⟨⟩) (by rintro ⟨⟩)
  | ok other =>
      change Except.ok other = Except.ok value ↔ _
      rw [Except.ok.injEq, Except.ok.injEq]

end Except

end Rover
