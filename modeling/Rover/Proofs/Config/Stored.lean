import Rover.Config.Stored
import Rover.Proofs.Config.Data
import Rover.Proofs.Config.Valid
import Rover.Proofs.Config.Wait

/-!
# A configuration saved and loaded

A configuration within its bounds can be saved, and the file loads again. All whole fields come back
as they were, and the wait as the reader makes it of its digits, which need not be the wait. A
configuration out of its bounds changes nothing.
-/

namespace Rover

namespace Binary64

theorem sameNumber_number {negative negative' : Bool} {rank rank' : Rank} :
    (number negative rank).sameNumber (number negative' rank') = true ↔
      place negative rank = place negative' rank' := by
  rw [sameNumber, Bool.and_eq_true, atMost, atMost, decide_eq_true_iff, decide_eq_true_iff]
  omega

/-- Two waits are equal numbers if they are the same, the zeros of either sign apart. -/
theorem sameNumber_wait {wait : Binary64} {rank : Rank}
    (within : Parameters.waitInBounds wait = true) (nonzero : rank ≠ .zero) :
    wait.sameNumber (number false rank) = true ↔ wait = number false rank := by
  rcases Parameters.wait_number_cases within with ⟨negative, rfl⟩ | ⟨rank', rfl, -, -, -⟩
  · have other : number negative .zero ≠ number false rank := by
      intro same
      exact nonzero (number.inj same).2.symm
    have apart : place negative .zero ≠ place false rank := by
      have positive : rank.val ≠ 0 := fun isZero => nonzero (Fin.ext isZero)
      have zero : place negative .zero = 0 := by cases negative <;> rfl
      rw [zero]
      exact fun same => positive (Int.ofNat.inj same.symm)
    exact iff_of_false (mt sameNumber_number.mp apart) other
  · rw [sameNumber_number]
    constructor
    · intro same
      rw [Fin.ext (Int.ofNat.inj same)]
    · intro same
      rw [(number.inj same).2]

end Binary64

namespace Config

open Json Parameters

/-- The configuration that is read where this one was written. -/
def reread (config : Config) : Config :=
  { config with waitSeconds := rereadWait config.waitSeconds }

variable {config : Config}

theorem validate_reread (valid : config.validate = .ok ()) : config.reread.validate = .ok () := by
  rw [validate_eq_ok_iff] at valid ⊢
  obtain ⟨speed, wait, alarm, attempts⟩ := valid
  exact ⟨speed, waitInBounds_rereadWait wait, alarm, attempts⟩

/-- Both texts of a configuration within its bounds are read alike. -/
theorem ofText?_texts (valid : config.validate = .ok ()) :
    ofText? config.compactText = some config.reread ∧
      ofText? config.spreadText = some config.reread := by
  have wait := (validate_eq_ok_iff.mp valid).2.1
  have finite := isFinite_of_waitInBounds wait
  cases shape : config.waitSeconds with
  | nan =>
      rw [shape] at finite
      cases finite
  | number negative rank =>
      rw [shape] at wait finite
      have finite : rank ≠ .infinity := Fin.ne_of_lt (of_decide_eq_true finite)
      have fields : config.fields = fieldsOf (config.entries (.ofNumber negative rank)) :=
        fields_eq (by rw [shape, Numeral.text_ofNumber negative finite])
      have filled : config.entries (.ofNumber negative rank) ≠ [] := List.cons_ne_nil _ _
      obtain ⟨compact, spread⟩ :=
        read?_fieldsOf filled (wf_entries (Numeral.wf_ofNumber negative finite))
      have decoded : decoder (.object ((config.entries (.ofNumber negative rank)).map
          Entry.member)) = some config.reread := by
        rw [decoder, overlay_entries standard (toBinary64?_wait wait), reread, shape]
      constructor
      · rw [ofText?, decode?, compactText, fields, compact, Option.bind_some, decoded]
      · rw [ofText?, decode?, spreadText, fields, spread, Option.bind_some, decoded]

theorem sameNumber_rereadWait {wait : Binary64} (within : waitInBounds wait = true) :
    (rereadWait wait).sameNumber wait = true ↔ rereadWait wait = wait := by
  rcases wait_number_cases within with ⟨negative, rfl⟩ | ⟨rank, rfl, nonzero, -, -⟩
  · rw [rereadWait_zero]
    exact iff_of_true (Binary64.sameNumber_number.mpr rfl) rfl
  · exact Binary64.sameNumber_wait (waitInBounds_rereadWait within) nonzero

theorem sameAs_reread (valid : config.validate = .ok ()) :
    config.reread.sameAs config = true ↔ rereadWait config.waitSeconds = config.waitSeconds := by
  rw [← sameNumber_rereadWait (validate_eq_ok_iff.mp valid).2.1]
  simp [sameAs, reread]

theorem reread_eq_self (valid : config.validate = .ok ())
    (exact : HasExactDigits config.waitSeconds) : config.reread = config := by
  rw [reread, rereadWait_eq_self (validate_eq_ok_iff.mp valid).2.1 exact]

theorem save_of_valid (path : String) (valid : config.validate = .ok ()) {stored : Stored}
    (free : ∀ reason, stored ≠ .blocked reason) :
    save path config stored =
      ⟨.ok (), .text config.spreadText, [fileNotice .info ("saved " ++ path)]⟩ := by
  cases stored with
  | blocked reason => exact absurd rfl (free reason)
  | _ => rw [save.eq_def, valid]

theorem load_spreadText (path : String) (valid : config.validate = .ok ()) :
    (load path (.text config.spreadText)).1 = .ok config.reread := by
  simp only [load, (ofText?_texts valid).2, validate_reread valid]

/-- What is saved is loaded again, the wait being what the reader makes of its digits. -/
theorem load_save_eq_reread (path : String) (config : Config) :
    (config.validate ≠ .ok () → ∀ stored, ∃ field,
      save path config stored = ⟨.error (.validationFailed field), stored, []⟩) ∧
    (config.validate = .ok () →
      (∀ stored, (∀ reason, stored ≠ .blocked reason) →
        (save path config stored).result = .ok () ∧
          (load path (save path config stored).stored).1 = .ok config.reread) ∧
      ofText? config.compactText = some config.reread ∧
      config.reread.validate = .ok () ∧
      (config.reread.sameAs config = true ↔
        rereadWait config.waitSeconds = config.waitSeconds) ∧
      (HasExactDigits config.waitSeconds → config.reread = config)) := by
  constructor
  · intro refused stored
    rcases validate_cases config with valid | ⟨field, error⟩
    · exact absurd valid refused
    · exact ⟨field, by rw [save.eq_def, error]⟩
  · intro valid
    refine ⟨?_, (ofText?_texts valid).1, validate_reread valid, sameAs_reread valid,
      reread_eq_self valid⟩
    intro stored free
    rw [save_of_valid path valid free]
    exact ⟨rfl, load_spreadText path valid⟩

/-- The standard configuration comes back, and without connect attempts it is refused. -/
theorem load_save_standard :
    (save "finch.json" standard .absent).result = .ok () ∧
      (load "finch.json" (save "finch.json" standard .absent).stored).1 = .ok standard ∧
      ∃ field, save "finch.json" { standard with connectAttempts := 0 } .absent =
        ⟨.error (.validationFailed field), .absent, []⟩ := by
  obtain ⟨stored, -, -, -, same⟩ := (load_save_eq_reread "finch.json" standard).2 validate_standard
  have exact : HasExactDigits standard.waitSeconds := by
    right
    decide +kernel
  have loaded := stored .absent (by rintro _ ⟨⟩)
  rw [same exact] at loaded
  refine ⟨loaded.1, loaded.2, ?_⟩
  have refused : ({ standard with connectAttempts := 0 } : Config).validate ≠ .ok () :=
    fun valid => (validate_eq_ok_iff.mp valid).2.2.2 rfl
  exact (load_save_eq_reread "finch.json" { standard with connectAttempts := 0 }).1 refused .absent

/-- The standard configuration with a wait whose shortest digits are read as another number. -/
def unstable : Config := { waitSeconds := .ofRatio false 9745424510282939 (tenTo 14) }

/-- The wait is written as 97.45424510282939, which is read as 97.4542451028294. -/
theorem load_save_unstable :
    unstable.validate = .ok () ∧
      (load "finch.json" (save "finch.json" unstable .absent).stored).1.toOption.map
        (·.sameAs unstable) = some false ∧
      (ofText? unstable.compactText).map (·.sameAs unstable) = some false := by
  have valid : unstable.validate = .ok () := by decide +kernel
  have differs : unstable.reread.sameAs unstable = false := by decide +kernel
  rw [save_of_valid _ valid (by rintro _ ⟨⟩), load_spreadText _ valid, (ofText?_texts valid).1]
  exact ⟨valid, congrArg some differs, congrArg some differs⟩

end Config

end Rover
