import Rover.Config.Stored
import Rover.Proofs.Config.Field
import Rover.Proofs.Config.Valid
import Rover.Proofs.Json.Grammar
import Rover.Proofs.Json.Range
import Rover.Proofs.Json.Record

/-!
# Loading a configuration

A stored text is an object whose members replace fields of the standard configuration, in whatever
order they stand. Members of other names are passed over with all that they hold. What comes out is
refused for the first of its fields that is out of its bounds.
-/

namespace Rover.Config

open Json Parameters

/-- The configuration of the given values. -/
def ofFields (values : (field : Field) → field.Value) : Config where
  motorSpeed := values .motorSpeed
  ledBrightness := values .ledBrightness
  waitSeconds := values .waitSeconds
  alarmHertz := values .alarmHertz
  alarmMillis := values .alarmMillis
  ledStepMillis := values .ledStepMillis
  danceStepMillis := values .danceStepMillis
  connectAttempts := values .connectAttempts
  feedbackMillis := values .feedbackMillis

theorem get_ofFields (values : (field : Field) → field.Value) (field : Field) :
    field.get (ofFields values) = values field := by
  cases field <;> rfl

/-- The standard configuration with the given fields replaced. -/
def replaced (given : (field : Field) → Option field.Value) : Config :=
  ofFields fun field => (given field).getD (field.get standard)

/-! ## Members -/

/-- The members that have the name of a field. -/
def Field.occurrences (field : Field) (members : Members) : Members :=
  members.filter fun member => member.1 = some field.name.toList

/-- The value that the members give to a field: none where its name does not occur, and otherwise
what the number of its only member stands for. -/
def Field.GivenBy (field : Field) (members : Members) : Option field.Value → Prop
  | none => field.occurrences members = []
  | some value => ∃ numeral,
      field.occurrences members = [(some field.name.toList, .number numeral)] ∧
        field.Means numeral value

theorem Field.read_of_givenBy {field : Field} {members : Members} {given : Option field.Value}
    (gives : field.GivenBy members given) :
    field.read standard members = some (given.getD (field.get standard)) := by
  rw [read, member]
  cases given with
  | none =>
      have empty : field.occurrences members = [] := gives
      rw [occurrences] at empty
      rw [empty]
      rfl
  | some value =>
      obtain ⟨numeral, only, meaning⟩ := gives
      rw [occurrences] at only
      rw [only]
      exact decoder_eq_some_iff.mpr meaning

/-- A name that occurs twice is not read. -/
theorem Field.read_of_repeated {field : Field} {members : Members}
    (repeated : 2 ≤ (field.occurrences members).length) (base : Config) :
    field.read base members = none := by
  rw [occurrences] at repeated
  rw [read, member]
  split
  next empty => simp [empty] at repeated
  next only => simp [only] at repeated
  next => rfl

/-- A number that stands for no value of the field is not read. -/
theorem Field.read_of_meaningless {field : Field} {members : Members} {numeral : Numeral}
    (only : field.occurrences members = [(some field.name.toList, .number numeral)])
    (meaningless : ∀ value, ¬ field.Means numeral value) (base : Config) :
    field.read base members = none := by
  rw [occurrences] at only
  rw [read, member, only, Option.eq_none_iff_forall_ne_some]
  intro value shown
  exact meaningless value (decoder_eq_some_iff.mp shown)

/-! ## Texts -/

variable {text : String} {members : Members}

theorem ofText?_object (object : TextOf (.object members) text.toList) :
    ofText? text = overlay standard (.object members) := by
  rw [ofText?, decode?, read?_eq_some object, Option.bind_some, decoder]

theorem ofText?_of_givenBy (object : TextOf (.object members) text.toList)
    (named : ∀ member ∈ members, member.1.isSome = true)
    {given : (field : Field) → Option field.Value}
    (gives : ∀ field : Field, field.GivenBy members (given field)) :
    ofText? text = some (replaced given) := by
  rw [ofText?_object object, overlay_object_eq_some_iff]
  refine ⟨named, ?_⟩
  intro field
  rw [replaced, get_ofFields]
  exact Field.read_of_givenBy (gives field)

/-- One field that is not read makes the whole text useless. -/
theorem load_of_unread (path : String) (object : TextOf (.object members) text.toList)
    {field : Field} (unread : field.read standard members = none) :
    (load path (.text text)).1 = .error .corrupted := by
  have useless : ofText? text = none := by
    rw [ofText?_object object, Option.eq_none_iff_forall_ne_some]
    intro config decoded
    have each := (overlay_object_eq_some_iff.mp decoded).2 field
    rw [unread] at each
    cases each
  simp only [load, useless]

/-! ## Bounds -/

/-- The fields that have bounds, in the order in which they are looked at. -/
def bounded : List Field := [.motorSpeed, .waitSeconds, .alarmHertz, .connectAttempts]

/-- A field is within its bounds, as one without bounds always is. -/
def Field.Within (config : Config) : Field → Prop
  | .motorSpeed => -255 ≤ config.motorSpeed ∧ config.motorSpeed ≤ 255
  | .waitSeconds => Binary64.zero ≤ config.waitSeconds ∧ config.waitSeconds ≤ .ofNat 180
  | .alarmHertz => config.alarmHertz ≠ 0
  | .connectAttempts => config.connectAttempts ≠ 0
  | .ledBrightness | .alarmMillis | .ledStepMillis | .danceStepMillis | .feedbackMillis => True

instance (config : Config) : (field : Field) → Decidable (field.Within config)
  | .motorSpeed | .waitSeconds => inferInstanceAs (Decidable (_ ∧ _))
  | .alarmHertz | .connectAttempts => inferInstanceAs (Decidable (¬ _))
  | .ledBrightness | .alarmMillis | .ledStepMillis | .danceStepMillis | .feedbackMillis =>
    inferInstanceAs (Decidable True)

theorem Field.not_speedInBounds (config : Config) :
    (!speedInBounds config.motorSpeed) = decide (¬ Field.Within config .motorSpeed) := by
  rw [decide_not, speedInBounds, ← Bool.decide_and]
  rfl

theorem Field.not_waitInBounds (config : Config) :
    (!waitInBounds config.waitSeconds) = decide (¬ Field.Within config .waitSeconds) := by
  have within : decide (Field.Within config .waitSeconds) = waitInBounds config.waitSeconds := by
    rw [Bool.eq_iff_iff, decide_eq_true_iff, waitInBounds, Bool.and_eq_true]
    exact Iff.rfl
  rw [decide_not, within]

/-- A configuration is refused for the first of its fields that is out of its bounds. -/
theorem validate_eq_find? (config : Config) :
    config.validate =
      match bounded.find? fun field => ¬ field.Within config with
      | some field => .error (.validationFailed field.name)
      | none => .ok () := by
  have speed := Field.not_speedInBounds config
  have wait : (!config.waitSeconds.isFinite || !waitInBounds config.waitSeconds) =
      decide (¬ Field.Within config .waitSeconds) := by
    rw [← Field.not_waitInBounds]
    cases bounded : waitInBounds config.waitSeconds with
    | false => exact Bool.or_true _
    | true => rw [isFinite_of_waitInBounds bounded]; rfl
  have alarm : config.alarmHertz = 0 ↔ decide (¬ Field.Within config .alarmHertz) = true := by
    rw [decide_eq_true_iff]
    exact not_not.symm
  have attempts : config.connectAttempts = 0 ↔
      decide (¬ Field.Within config .connectAttempts) = true := by
    rw [decide_eq_true_iff]
    exact not_not.symm
  simp only [validate, firstBadField?, bounded, speed, wait, alarm, attempts, List.find?_cons,
    List.find?_nil]
  generalize decide (¬ Field.Within config .motorSpeed) = slow
  generalize decide (¬ Field.Within config .waitSeconds) = long
  generalize decide (¬ Field.Within config .alarmHertz) = silent
  generalize decide (¬ Field.Within config .connectAttempts) = idle
  cases slow with
  | true => rfl
  | false =>
      cases long with
      | true => rfl
      | false =>
          cases silent with
          | true => rfl
          | false => cases idle <;> rfl

/-! ## What is loaded -/

/-- An object gives exactly the fields that it names, in any order and beside any other members,
and what it gives is loaded if it is within its bounds. A known name that occurs twice, and a
number that stands for no value of its field, make the text useless; below the bound every number
is a wait. -/
theorem load_object_eq_replaced (path : String) :
    (∀ (given : (field : Field) → Option field.Value) (text : String) (members : Members),
      TextOf (.object members) text.toList → (∀ member ∈ members, member.1.isSome = true) →
      (∀ field : Field, field.GivenBy members (given field)) →
      (load path (.text text)).1 =
        match (replaced given).validate with
        | .ok () => .ok (replaced given)
        | .error error => .error error) ∧
    (∀ config : Config, config.validate =
      match bounded.find? fun field => ¬ field.Within config with
      | some field => .error (.validationFailed field.name)
      | none => .ok ()) ∧
    (∀ (text : String) (members : Members) (field : Field),
      TextOf (.object members) text.toList → 2 ≤ (field.occurrences members).length →
      (load path (.text text)).1 = .error .corrupted) ∧
    (∀ (text : String) (members : Members) (field : Field) (numeral : Numeral),
      TextOf (.object members) text.toList →
      field.occurrences members = [(some field.name.toList, .number numeral)] →
      (∀ value, ¬ field.Means numeral value) → (load path (.text text)).1 = .error .corrupted) ∧
    (∀ numeral : Numeral, numeral.magnitude < leastRefused →
      ∃ value, Field.waitSeconds.Means numeral value) ∧
    ∀ (stored : Stored) (config : Config), (load path stored).1 = .ok config →
      config.validate = .ok () := by
  refine ⟨?_, validate_eq_find?, ?_, ?_, fun _ => Numeral.toBinary64?_of_lt,
    fun _ _ => validate_of_load⟩
  · intro given text members object named gives
    simp only [load, ofText?_of_givenBy object named gives]
    cases (replaced given).validate with
    | ok => rfl
    | error => rfl
  · intro text members field object repeated
    exact load_of_unread path object (Field.read_of_repeated repeated standard)
  · intro text members field numeral object only meaningless
    exact load_of_unread path object (Field.read_of_meaningless only meaningless standard)

/-- A member of another name that holds a known name, and one of a known name. -/
def mixed : Members :=
  [(some "note".toList, .object [(some "led_step_ms".toList, .array [.null])]),
   (some "connect_attempts".toList, .number (.ofInt 5))]

theorem textOf_mixed :
    TextOf (.object mixed)
      "\x7b\"note\":\x7b\"led_step_ms\":[null]\x7d,\n  \"connect_attempts\" : 5\x7d".toList := by
  have noBlanks : AllBlank [] := by decide
  have blank : AllBlank [' '] := by decide
  have line : AllBlank ['\n', ' ', ' '] := by decide
  have note : Plain "note".toList := by decide
  have led : Plain "led_step_ms".toList := by decide
  have attempts : Plain "connect_attempts".toList := by decide
  have nested := Written.object (.lastMember noBlanks led.placesText noBlanks noBlanks
    (.array (.lastElement noBlanks .null noBlanks)) noBlanks)
  have five := Written.number (Numeral.wf_ofInt 5) (Numeral.writtenAs_text _)
  have members := Written.member noBlanks note.placesText noBlanks noBlanks nested noBlanks
    (.lastMember line attempts.placesText blank blank five noBlanks)
  refine ⟨[], _, [], noBlanks, .object members, noBlanks, ?_⟩
  decide +kernel

theorem textOf_entry {name : String} {numeral : Numeral} (plain : Plain name.toList)
    (valid : numeral.WF) :
    TextOf (.object [(some name.toList, .number numeral)])
      (Json.compact (fieldsOf [(name, numeral)])).toList := by
  have entry : Entry.WF (name, numeral) := ⟨plain, valid⟩
  exact (textOf_fieldsOf (List.cons_ne_nil _ _) (List.forall_mem_singleton.mpr entry)).1

/-- The known name inside another member gives nothing. A known name may not occur twice, and its
number has to fit its field. -/
theorem load_object_mixed :
    (load "finch.json" (.text
      "\x7b\"note\":\x7b\"led_step_ms\":[null]\x7d,\n  \"connect_attempts\" : 5\x7d")).1 =
        .ok { standard with connectAttempts := 5 } ∧
    ({ standard with connectAttempts := 5 } : Config).validate = .ok () ∧
    (load "finch.json" (.text
      "\x7b\"led_step_ms\":5,\"led_step_ms\":5\x7d")).1 = .error .corrupted ∧
    (load "finch.json" (.text "\x7b\"connect_attempts\":256\x7d")).1 = .error .corrupted ∧
    ∃ value, Field.waitSeconds.Means (.ofInt 1) value := by
  obtain ⟨loads, -, repeated, meaningless, taken, valid⟩ := load_object_eq_replaced "finch.json"
  let given : (field : Field) → Option field.Value
    | .connectAttempts => some 5
    | _ => none
  have gives : ∀ field : Field, field.GivenBy mixed (given field) := by
    intro field
    cases field with
    | connectAttempts => exact ⟨.ofInt 5, rfl, Numeral.isInt_ofInt 5⟩
    | _ => rfl
  have loaded := loads given _ mixed textOf_mixed (by decide) gives
  have within : (replaced given).validate = .ok () := by decide +kernel
  rw [within] at loaded
  have entry : Entry.WF ("led_step_ms", .ofInt 5) := ⟨by decide, Numeral.wf_ofInt 5⟩
  have twice : ∀ entry ∈ [("led_step_ms", Numeral.ofInt 5), ("led_step_ms", .ofInt 5)],
      Entry.WF entry :=
    List.forall_mem_cons.mpr ⟨entry, List.forall_mem_singleton.mpr entry⟩
  have large : ∀ value, ¬ Field.connectAttempts.Means (.ofInt 256) value := by
    intro value meaning
    have same := (Numeral.isInt_ofInt 256).value_eq.trans meaning.value_eq.symm
    have fits := UInt8.toNat_lt value
    omega
  have one : (Numeral.ofInt 1).magnitude < leastRefused := by
    have bound : (1 : Int).natAbs < leastRefused := by decide +kernel
    rw [Numeral.magnitude_ofInt]
    exact_mod_cast bound
  refine ⟨loaded, valid _ _ loaded, ?_, ?_, taken _ one⟩
  · exact repeated _ _ .ledStepMillis (textOf_fieldsOf (List.cons_ne_nil _ _) twice).1 (by decide)
  · have plain : Plain Field.connectAttempts.name.toList := by decide
    have object := textOf_entry plain (Numeral.wf_ofInt 256)
    exact meaningless _ _ _ _ object rfl large

/-- An object whose only member is the least wait that is refused. It is in the range of the format,
and with it the text is useless. -/
theorem load_refused_wait :
    ∃ members : Members,
      TextOf (.object members) "\x7b\"default_wait_secs\":17976931348623156225e+289\x7d".toList ∧
      (∀ member ∈ members, member.1.isSome = true) ∧
      Field.waitSeconds.occurrences members =
        [(some Field.waitSeconds.name.toList, .number Numeral.refused)] ∧
      Numeral.refused.InRange ∧
      (∀ field : Field, field ≠ .waitSeconds → field.occurrences members = []) ∧
      (load "finch.json" (.text
        "\x7b\"default_wait_secs\":17976931348623156225e+289\x7d")).1 = .error .corrupted := by
  have plain : Plain Field.waitSeconds.name.toList := by decide
  have object := textOf_entry plain Numeral.wf_refused
  obtain ⟨inRange, refused⟩ := Numeral.toBinary64?_refused
  have only : Field.waitSeconds.occurrences
      [(some Field.waitSeconds.name.toList, .number .refused)] =
        [(some Field.waitSeconds.name.toList, .number .refused)] := rfl
  have meaningless : ∀ value, ¬ Field.waitSeconds.Means .refused value := by
    intro value meaning
    cases refused.symm.trans meaning
  refine ⟨_, object, by decide, only, inRange, ?_, ?_⟩
  · intro field other
    cases field with
    | waitSeconds => exact absurd rfl other
    | _ => rfl
  · exact load_of_unread _ object (Field.read_of_meaningless only meaningless standard)

end Rover.Config
