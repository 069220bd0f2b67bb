import Rover.Proofs.Config.Field
import Rover.Proofs.Json.Record

/-!
# A configuration read back

A configuration is written as a record of numbers, and all of its nine names are distinct. So each
field is read from the number that was written for it, whatever the configuration it is read over.
-/

namespace Rover.Config

open Json

/-- The record of a configuration whose wait is written as the given number. -/
def entries (config : Config) (wait : Numeral) : List Entry :=
  [("default_motor_speed", .ofInt config.motorSpeed.toInt),
   ("default_led_brightness", .ofInt config.ledBrightness.toNat),
   ("default_wait_secs", wait),
   ("alarm_frequency_hz", .ofInt config.alarmHertz.toNat),
   ("alarm_duration_ms", .ofInt config.alarmMillis.toNat),
   ("led_step_ms", .ofInt config.ledStepMillis.toNat),
   ("dance_step_ms", .ofInt config.danceStepMillis.toNat),
   ("connect_attempts", .ofInt config.connectAttempts.toNat),
   ("connect_feedback_ms", .ofInt config.feedbackMillis.toNat)]

/-- The names of the fields, in order. -/
def fieldNames : List String :=
  ["default_motor_speed", "default_led_brightness", "default_wait_secs", "alarm_frequency_hz",
   "alarm_duration_ms", "led_step_ms", "dance_step_ms", "connect_attempts", "connect_feedback_ms"]

variable {config : Config} {wait : Numeral}

theorem map_fst_entries : (config.entries wait).map Prod.fst = fieldNames := rfl

theorem nodup_fieldNames : fieldNames.Nodup := by decide

theorem fields_eq (shown : wait.text = config.waitSeconds.dataText.toList) :
    config.fields = fieldsOf (config.entries wait) := by
  simp only [fields, fieldsOf, entries, List.map_cons, List.map_nil, Numeral.text_ofInt, shown,
    String.ofList_toList]
  rfl

theorem wf_entries (valid : wait.WF) : ∀ entry ∈ config.entries wait, entry.WF := by
  have plain : ∀ name ∈ fieldNames, Plain name.toList := by decide +kernel
  intro entry among
  constructor
  · apply plain
    rw [← map_fst_entries]
    exact List.mem_map_of_mem among
  · simp only [entries, List.mem_cons, List.not_mem_nil, or_false] at among
    rcases among with rfl | rfl | rfl | rfl | rfl | rfl | rfl | rfl | rfl
    all_goals first | exact valid | exact Numeral.wf_ofInt _

/-- Every field is read from the number that was written for it. -/
theorem overlay_entries {seconds : Binary64} (base : Config)
    (meaning : wait.toBinary64? = some seconds) :
    overlay base (.object ((config.entries wait).map Entry.member)) =
      some { config with waitSeconds := seconds } := by
  have found : ∀ (index : Nat) {field : Field} {numeral : Numeral} {value : field.Value},
      (config.entries wait)[index]? = some (field.name, numeral) → field.Means numeral value →
        field.read base ((config.entries wait).map Entry.member) = some value := by
    intro index field numeral value place meaning
    have distinct : ((config.entries wait).map Prod.fst).Nodup := nodup_fieldNames
    have read := member_map field.decoder (some (field.get base)) distinct
      (List.mem_of_getElem? place)
    exact read.trans (Field.decoder_eq_some_iff.mpr meaning)
  rw [overlay_object_eq_some_iff]
  constructor
  · intro member among
    obtain ⟨entry, -, rfl⟩ := List.mem_map.mp among
    rfl
  · intro field
    cases field with
    | motorSpeed => exact found 0 rfl (Numeral.isInt_ofInt _)
    | ledBrightness => exact found 1 rfl (Numeral.isInt_ofInt _)
    | waitSeconds => exact found 2 rfl meaning
    | alarmHertz => exact found 3 rfl (Numeral.isInt_ofInt _)
    | alarmMillis => exact found 4 rfl (Numeral.isInt_ofInt _)
    | ledStepMillis => exact found 5 rfl (Numeral.isInt_ofInt _)
    | danceStepMillis => exact found 6 rfl (Numeral.isInt_ofInt _)
    | connectAttempts => exact found 7 rfl (Numeral.isInt_ofInt _)
    | feedbackMillis => exact found 8 rfl (Numeral.isInt_ofInt _)

end Rover.Config
