import Rover.Proofs.Robot.Sensor

/-!
# Readings and their reports

A robot is in good hands if each of its readings is reported by the very next event, together with
the other side if both lights were sampled. Only a left light whose right one then fails to be
sampled is never reported. Read from the first event to the last, the reports are then the scripts
of the sensors.
-/

namespace Rover

namespace Event

/-- Whether the event is about readings. -/
def isSample : Event → Bool
  | .temperatureRecorded .. | .monitorSample .. => true
  | _ => false

end Event

namespace Sensor

/-- The reading of the sensor that an event shows. -/
def shownIn : Sensor → Event → Option Binary64
  | .temperature, .temperatureRecorded _ celsius => some celsius
  | .temperature, .monitorSample .temperature _ celsius _ => celsius
  | .left, .monitorSample .light _ level _ => level
  | .right, .monitorSample .light _ _ level => level
  | _, _ => none

theorem shownIn_of_not_isSample {event : Event} (other : event.isSample = false)
    (sensor : Sensor) : sensor.shownIn event = none := by
  cases event with
  | temperatureRecorded | monitorSample => cases other
  | _ => cases sensor <;> rfl

/-- A reply to the call of the sensor as a number. -/
def value : (sensor : Sensor) → sensor.call.Reply → Binary64
  | .temperature, celsius => celsius
  | .left, level => .ofInt level.toInt
  | .right, level => .ofInt level.toInt

theorem value_apply (sensor : Sensor) (robot : SimulatedRobot) :
    sensor.value (SimulatedRobot.apply sensor.call robot).1 = sensor.reading robot 0 := by
  cases sensor with
  | temperature => exact Script.fst_next robot.temperature
  | left => exact congrArg (Binary64.ofInt ·.toInt) (Script.fst_next robot.leftLight)
  | right => exact congrArg (Binary64.ofInt ·.toInt) (Script.fst_next robot.rightLight)

/-- A sensor replies with its next reading. -/
theorem value_of_answered {sensor : Sensor} {robot : SimulatedRobot} {reply : sensor.call.Reply}
    (answered : (SimulatedRobot.perform sensor.call robot).result = .ok reply) :
    sensor.value reply = sensor.reading robot 0 := by
  simp only [SimulatedRobot.perform] at answered
  split at answered
  next => cases answered
  next =>
    rw [← Except.ok.inj answered, value_apply]
    cases sensor <;> rfl

end Sensor

namespace Journal

@[simp] theorem accepted_nil : accepted [] = [] := rfl

@[simp] theorem accepted_call_none (call : Call) (rest : Journal) :
    accepted (.call call none :: rest) = call :: accepted rest := rfl

@[simp] theorem accepted_call_some (call : Call) (error : DeviceError) (rest : Journal) :
    accepted (.call call (some error) :: rest) = accepted rest := rfl

@[simp] theorem accepted_event (event : Event) (rest : Journal) :
    accepted (.event event :: rest) = accepted rest := rfl

@[simp] theorem accepted_append (first second : Journal) :
    accepted (first ++ second) = accepted first ++ accepted second := by
  simp [accepted]

/-- Whether the right light fails to be sampled first of all. -/
def losesRight : Journal → Bool
  | .call .rightLight (some _) :: _ => true
  | _ => false

/-- The numbers of the left lights without a report: the right one failed to be sampled just after
them. So many left lights were sampled before. -/
def unreported : (taken : Nat) → Journal → List Nat
  | _, [] => []
  | taken, .call .leftLight none :: rest =>
    if losesRight rest then taken :: unreported (taken + 1) rest
    else unreported (taken + 1) rest
  | taken, _ :: rest => unreported taken rest

theorem losesRight_iff {journal : Journal} :
    journal.losesRight = true ↔ ∃ error late, journal = .call .rightLight (some error) :: late := by
  constructor
  · intro loses
    unfold losesRight at loses
    split at loses
    next error late => exact ⟨error, late, rfl⟩
    next => cases loses
  · rintro ⟨error, late, rfl⟩
    rfl

/-- One entry more in front adds at most its own number. -/
theorem mem_unreported_cons {taken number : Nat} {entry : Record} {rest : Journal} :
    number ∈ unreported taken (entry :: rest) ↔
      (number = taken ∧ entry = .call .leftLight none ∧ losesRight rest = true) ∨
        number ∈ unreported (taken + (accepted [entry]).count .leftLight) rest := by
  by_cases left : entry = .call .leftLight none
  · subst left
    by_cases loses : losesRight rest = true <;> simp [unreported, loses]
  · have quiet : (accepted [entry]).count .leftLight = 0 := by
      cases entry with
      | call tried failure =>
          cases failure with
          | some error => rfl
          | none => exact List.count_eq_zero_of_not_mem (by simpa [eq_comm] using left)
      | _ => rfl
    have passed : unreported taken (entry :: rest) = unreported taken rest := by
      rw [unreported]
      exact left
    simp [left, quiet, passed]

theorem le_of_mem_unreported {taken number : Nat} {journal : Journal}
    (inside : number ∈ journal.unreported taken) : taken ≤ number := by
  induction journal generalizing taken with
  | nil => cases inside
  | cons entry rest ih =>
      rcases mem_unreported_cons.mp inside with ⟨rfl, -⟩ | later
      · exact Nat.le_refl _
      · exact Nat.le_trans (Nat.le_add_right _ _) (ih later)

/-- What the numbers count: the left lights sampled before the one that has no report. -/
theorem mem_unreported_iff {taken number : Nat} {journal : Journal} :
    number ∈ journal.unreported taken ↔ ∃ (early : Journal) (error : DeviceError) (late : Journal),
      journal = early ++ .call .leftLight none :: .call .rightLight (some error) :: late ∧
        number = taken + early.accepted.count .leftLight := by
  induction journal generalizing taken with
  | nil => simp [unreported]
  | cons entry rest ih =>
      rw [mem_unreported_cons, ih, losesRight_iff]
      constructor
      · rintro (⟨rfl, rfl, error, late, rfl⟩ | ⟨early, error, late, rfl, rfl⟩)
        · exact ⟨[], error, late, rfl, rfl⟩
        · refine ⟨entry :: early, error, late, rfl, ?_⟩
          rw [Nat.add_assoc, ← List.count_append, ← accepted_append]
          rfl
      · rintro ⟨early, error, late, split, rfl⟩
        cases early with
        | nil =>
            cases split
            exact .inl ⟨rfl, rfl, error, late, rfl⟩
        | cons first early =>
            obtain ⟨rfl, rfl⟩ := List.cons.inj split
            refine .inr ⟨early, error, late, rfl, ?_⟩
            rw [Nat.add_assoc, ← List.count_append, ← accepted_append]
            rfl

end Journal

namespace SimulatedRobot

/-- The robot goes from one state to another by the accepted calls among the deeds, and the deeds
report each reading at once. -/
inductive Reported : SimulatedRobot → Journal → SimulatedRobot → Prop
  | done (robot : SimulatedRobot) : Reported robot [] robot
  | event (event : Event) (other : event.isSample = false) {robot last : SimulatedRobot}
      {rest : Journal} (later : Reported robot rest last) :
      Reported robot (.event event :: rest) last
  | refused (call : Call) (error : DeviceError) {robot last : SimulatedRobot} {rest : Journal}
      (later : Reported robot rest last) :
      Reported robot (.call call (some error) :: rest) last
  | silent (call : Call) (reads : call.isReading = false) {robot last : SimulatedRobot}
      {rest : Journal} (later : Reported (robot.accept call) rest last) :
      Reported robot (.call call none :: rest) last
  | single (sensor : Sensor) (event : Event) {robot last : SimulatedRobot} {rest : Journal}
      (shows : ∀ other : Sensor, other.shownIn event =
        if other = sensor then some (sensor.reading robot 0) else none)
      (later : Reported (robot.accept sensor.call) rest last) :
      Reported robot (.call sensor.call none :: .event event :: rest) last
  | both (event : Event) {robot last : SimulatedRobot} {rest : Journal}
      (shows : ∀ other : Sensor, other.shownIn event =
        if other = .temperature then none else some (other.reading robot 0))
      (later : Reported ((robot.accept .leftLight).accept .rightLight) rest last) :
      Reported robot (.call .leftLight none :: .call .rightLight none :: .event event :: rest) last
  | torn (error : DeviceError) {robot last : SimulatedRobot} {rest : Journal}
      (later : Reported (robot.accept .leftLight) rest last) :
      Reported robot (.call .leftLight none :: .call .rightLight (some error) :: rest) last

namespace Reported

variable {start middle last : SimulatedRobot} {gain : Journal}

theorem append {first second : Journal} (early : Reported start first middle)
    (late : Reported middle second last) : Reported start (first ++ second) last := by
  induction early with
  | done => exact late
  | event event other _ ih => exact .event event other (ih late)
  | refused call error _ ih => exact .refused call error (ih late)
  | silent call reads _ ih => exact .silent call reads (ih late)
  | single sensor event shows _ ih => exact .single sensor event shows (ih late)
  | both event shows _ ih => exact .both event shows (ih late)
  | torn error _ ih => exact .torn error (ih late)

end Reported

end SimulatedRobot

namespace Sensor

/-- The numbers of the readings of a sensor without a report, the first one of the journal having
the given number. -/
def unreported (taken : Nat) (gain : Journal) : Sensor → List Nat
  | .left => gain.unreported taken
  | .temperature | .right => []

/-- The reports show the readings of the sensor from the given number on. -/
def ShownFrom (sensor : Sensor) (value : Nat → Binary64) (taken : Nat) (gain : Journal) : Prop :=
  gain.events.filterMap sensor.shownIn =
    ((List.range' taken (gain.accepted.count sensor.call)).filter
      (· ∉ sensor.unreported taken gain)).map value

namespace ShownFrom

variable {sensor : Sensor} {value : Nat → Binary64} {taken : Nat} {gain rest : Journal}

theorem skip (later : sensor.ShownFrom value taken rest)
    (events : gain.events.filterMap sensor.shownIn = rest.events.filterMap sensor.shownIn)
    (count : gain.accepted.count sensor.call = rest.accepted.count sensor.call)
    (unreported : sensor.unreported taken gain = sensor.unreported taken rest) :
    sensor.ShownFrom value taken gain := by
  rw [ShownFrom, events, count, unreported]
  exact later

theorem taken_not_mem_unreported : taken ∉ sensor.unreported (taken + 1) rest := by
  intro inside
  cases sensor with
  | left => exact Nat.not_succ_le_self _ (Journal.le_of_mem_unreported inside)
  | temperature | right => cases inside

theorem next (later : sensor.ShownFrom value (taken + 1) rest)
    (events : gain.events.filterMap sensor.shownIn =
      value taken :: rest.events.filterMap sensor.shownIn)
    (count : gain.accepted.count sensor.call = rest.accepted.count sensor.call + 1)
    (unreported : sensor.unreported taken gain = sensor.unreported (taken + 1) rest) :
    sensor.ShownFrom value taken gain := by
  have reported : taken ∉ sensor.unreported (taken + 1) rest := taken_not_mem_unreported
  rw [ShownFrom, events, count, unreported, List.range'_succ, later,
    List.filter_cons_of_pos (by simpa using reported), List.map_cons]

/-- A reading without a report is passed over. -/
theorem lose (later : sensor.ShownFrom value (taken + 1) rest)
    (events : gain.events.filterMap sensor.shownIn = rest.events.filterMap sensor.shownIn)
    (count : gain.accepted.count sensor.call = rest.accepted.count sensor.call + 1)
    (unreported : sensor.unreported taken gain = taken :: sensor.unreported (taken + 1) rest) :
    sensor.ShownFrom value taken gain := by
  have others : ∀ number ∈ List.range' (taken + 1) (rest.accepted.count sensor.call),
      decide (number ∉ taken :: sensor.unreported (taken + 1) rest) =
        decide (number ∉ sensor.unreported (taken + 1) rest) := by
    intro number inside
    have beyond : number ≠ taken := by
      have least := (List.mem_range'_1.mp inside).1
      omega
    simp [beyond]
  rw [ShownFrom, events, count, unreported, List.range'_succ, later,
    List.filter_cons_of_neg (by simp), List.filter_congr others]

/-- A sensor all of whose readings are reported. -/
theorem filterMap_eq_map (shown : sensor.ShownFrom value taken gain)
    (whole : sensor.unreported taken gain = []) :
    gain.events.filterMap sensor.shownIn =
      (List.range' taken (gain.accepted.count sensor.call)).map value := by
  rw [shown, List.filter_eq_self.mpr]
  intro number _
  rw [whole]
  simp

end ShownFrom

end Sensor

namespace SimulatedRobot.Reported

variable {start last : SimulatedRobot} {gain : Journal}

/-- By induction over the deeds, where each report settles the readings before it. -/
theorem shownFrom (reported : Reported start gain last) {sensor : Sensor}
    {value : Nat → Binary64} {taken : Nat}
    (readings : ∀ number, sensor.reading start number = value (taken + number)) :
    sensor.ShownFrom value taken gain := by
  induction reported generalizing taken with
  | done => simp [Sensor.ShownFrom]
  | event event other _ ih =>
      refine (ih readings).skip ?_ rfl ?_
      · simp [Sensor.shownIn_of_not_isSample other]
      · cases sensor <;> rfl
  | refused call error _ ih =>
      refine (ih readings).skip rfl rfl ?_
      cases sensor with
      | left => cases call <;> rfl
      | temperature | right => rfl
  | @silent call reads robot _ rest _ ih =>
      have other : call ≠ sensor.call := by
        rintro rfl
        rw [sensor.isReading_call] at reads
        cases reads
      refine (ih ?_).skip rfl ?_ ?_
      · intro number
        rw [Sensor.reading_accept, if_neg other, readings]
      · rw [Journal.accepted_call_none, List.count_cons_of_ne other]
      · cases sensor with
        | left => cases call <;> first | rfl | exact absurd rfl other
        | temperature | right => rfl
  | @single own event robot _ rest shows _ ih =>
      have shown := shows sensor
      by_cases same : sensor = own
      · subst same
        rw [if_pos rfl, readings] at shown
        refine (ih ?_).next ?_ ?_ ?_
        · intro number
          rw [Sensor.reading_accept, if_pos rfl, readings, Nat.add_right_comm, Nat.add_assoc]
        · simp [shown]
        · simp
        · cases sensor <;> rfl
      · have other : own.call ≠ sensor.call := fun equal => same (Sensor.call_inj.mp equal).symm
        rw [if_neg same] at shown
        refine (ih ?_).skip ?_ ?_ ?_
        · intro number
          rw [Sensor.reading_accept, if_neg other, readings]
        · simp [shown]
        · simp [other]
        · cases sensor with
          | left => cases own <;> first | rfl | exact absurd rfl same
          | temperature | right => rfl
  | @both event robot _ rest shows _ ih =>
      have shown := shows sensor
      cases sensor with
      | temperature =>
          rw [if_pos rfl] at shown
          refine (ih readings).skip ?_ rfl rfl
          simp [shown]
      | left | right =>
          rw [if_neg (by decide), readings] at shown
          refine (ih fun number => ?_).next ?_ ?_ rfl
          · rw [Nat.add_assoc]
            exact (Sensor.reading_foldl_accept _ [.leftLight, .rightLight] robot number).trans
              (readings _)
          · simp [shown]
          · simp [Sensor.call]
  | @torn error robot _ rest _ ih =>
      cases sensor with
      | left =>
          refine (ih fun number => ?_).lose rfl ?_ rfl
          · rw [Nat.add_assoc]
            exact (Sensor.reading_foldl_accept .left [.leftLight] robot number).trans (readings _)
          · simp [Sensor.call]
      | temperature | right => exact (ih readings).skip rfl rfl rfl

/-- Every event about readings shows one. -/
theorem exists_shownIn (reported : Reported start gain last) {event : Event}
    (happened : event ∈ gain.events) (samples : event.isSample = true) :
    ∃ (sensor : Sensor) (value : Binary64), sensor.shownIn event = some value := by
  induction reported with
  | done => cases happened
  | event reported other _ ih =>
      rcases List.mem_cons.mp happened with rfl | later
      · rw [other] at samples
        cases samples
      · exact ih later
  | refused _ _ _ ih | silent _ _ _ ih | torn _ _ ih => exact ih happened
  | single sensor reported shows _ ih =>
      rcases List.mem_cons.mp happened with rfl | later
      · exact ⟨sensor, _, (shows sensor).trans (if_pos rfl)⟩
      · exact ih later
  | both reported shows _ ih =>
      rcases List.mem_cons.mp happened with rfl | later
      · exact ⟨.left, _, (shows .left).trans (if_neg (by decide))⟩
      · exact ih later

end SimulatedRobot.Reported

end Rover
