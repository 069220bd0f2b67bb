import Rover.Proofs.Binary64.Whole
import Rover.Proofs.Robot.Faultless

/-!
# The tones of a sweep

Every step of the sweep becomes a tone by way of a product with pi, which is rounded and cut to a
word. So the tones start at more than three times the start of the sweep, they pass its top, and
they rise as long as the words suffice.
-/

namespace Rover

namespace Performance

/-! ## Steps and tones -/

/-- The significand of pi. -/
def piParts : Nat := 0x1921fb54442d18

/-- How many parts of the significand make one. -/
def partsPerOne : Nat := 0x8000000000000

theorem unitsPerOne_eq : unitsPerOne = partsPerOne * twoTo 1023 := by
  have split : unitExponent = 51 + 1023 := rfl
  have parts : twoTo 51 = partsPerOne := by decide
  rw [unitsPerOne, split, twoTo_add, parts]

/-- Pi is on the grid as it is written. -/
theorem exists_pi_eq : ∃ rank : Rank, pi = .number false rank ∧ rank < .infinity ∧
    rank.units = piParts * twoTo 1023 := by
  obtain ⟨rank, finite, units⟩ := Rank.exists_units_eq (by decide : piParts ≤ 2 * binadeSize)
    (by decide : 52 ≤ 1023) (by decide : 1023 ≤ 2044)
  refine ⟨rank, ?_, finite, units⟩
  have parts : piParts * unitsPerOne = rank.units * partsPerOne := by
    rw [units, unitsPerOne_eq]
    ring
  have written : pi = .ofRatio false piParts partsPerOne := rfl
  rw [written, Binary64.ofRatio, parts, Rank.nearest_units rank (by decide)]

/-- The product of a step with pi lies between the whole numbers around the exact one. -/
theorem between_pi_mul {step low high : Nat} (fits : step ≤ 2 * binadeSize)
    (below : low * partsPerOne ≤ piParts * step) (above : piParts * step ≤ high * partsPerOne)
    (inside : high ≤ 2 * binadeSize) : (pi.mul (.ofNat step)).Between false low high := by
  obtain ⟨rank, same, finite, units⟩ := exists_pi_eq
  have finite' := Rank.ofNat_lt_infinity fits
  have ordered : low ≤ high :=
    Nat.le_of_mul_le_mul_right (Nat.le_trans below above) (by decide : 0 < partsPerOne)
  have factors : rank.units * (Rank.ofNat step).units =
      piParts * step * (twoTo 1023 * unitsPerOne) := by
    rw [units, Rank.units_ofNat fits]
    ring
  refine ⟨.nearest (rank.units * (Rank.ofNat step).units) unitsPerOne, ?_, ?_, ?_⟩
  · rw [same]
    change (if rank = .infinity ∨ Rank.ofNat step = .infinity then _ else _) = _
    rw [if_neg (not_or_intro (Fin.ne_of_lt finite) (Fin.ne_of_lt finite'))]
    rfl
  · apply Rank.le_nearest_of_le unitsPerOne_pos
    rw [Rank.units_ofNat (Nat.le_trans ordered inside), factors]
    calc low * unitsPerOne * unitsPerOne
        = low * partsPerOne * (twoTo 1023 * unitsPerOne) := by
          rw [unitsPerOne_eq]
          ring
      _ ≤ piParts * step * (twoTo 1023 * unitsPerOne) := Nat.mul_le_mul_right _ below
  · apply Rank.nearest_le_of_le unitsPerOne_pos
    rw [Rank.units_ofNat inside, factors]
    calc piParts * step * (twoTo 1023 * unitsPerOne)
        ≤ high * partsPerOne * (twoTo 1023 * unitsPerOne) := Nat.mul_le_mul_right _ above
      _ = high * unitsPerOne * unitsPerOne := by
          rw [unitsPerOne_eq]
          ring

section Bounds

variable {step next low high : Nat}

/-- A whole number that is at most the product, and fits the word, is at most the tone. -/
theorem le_sweepTone (fits : step ≤ 0xffffffff) (below : low * partsPerOne ≤ piParts * step)
    (word : low ≤ 0xffffffff) : low ≤ (sweepTone step).toNat := by
  let high := piParts * step / partsPerOne + 1
  have above : piParts * step ≤ high * partsPerOne := by
    simp only [high, partsPerOne]
    omega
  have inside : high ≤ 2 * binadeSize := by
    simp only [high, partsPerOne, piParts, binadeSize]
    omega
  have ordered : low ≤ high :=
    Nat.le_of_mul_le_mul_right (Nat.le_trans below above) (by decide : 0 < partsPerOne)
  have small : step ≤ 2 * binadeSize := Nat.le_trans fits (by decide)
  have product := between_pi_mul small below above inside
  exact (product.round ordered inside).le_toUInt32 ordered inside word

theorem sweepTone_le (fits : step ≤ 0xffffffff) (above : piParts * step ≤ high * partsPerOne)
    (word : high ≤ 0xffffffff) : (sweepTone step).toNat ≤ high := by
  have inside : high ≤ 2 * binadeSize := Nat.le_trans word (by decide)
  have small : step ≤ 2 * binadeSize := Nat.le_trans fits (by decide)
  have aboveZero : 0 * partsPerOne ≤ piParts * step := by
    rw [Nat.zero_mul]
    exact Nat.zero_le _
  have product := between_pi_mul small aboveZero above inside
  exact ((product.round (Nat.zero_le _) inside).toUInt32 (Nat.zero_le _) word).2

/-- The first step whose tone does not fit the word. -/
def lastStep : Nat := 1367130600

/-- Up to the first step whose tone is cut to the word, tones rise. -/
theorem sweepTone_lt (apart : step + sweepStep ≤ next) (within : next ≤ lastStep) :
    sweepTone step < sweepTone next := by
  rw [sweepStep] at apart
  rw [lastStep] at within
  let high := piParts * step / partsPerOne + 1
  have upper : (sweepTone step).toNat ≤ high := by
    apply sweepTone_le (by omega)
    · simp only [high, partsPerOne]
      omega
    · simp only [high, partsPerOne, piParts]
      omega
  have lower : high + 1 ≤ (sweepTone next).toNat := by
    apply le_sweepTone (by omega)
    · simp only [high, partsPerOne, piParts]
      omega
    · simp only [high, partsPerOne, piParts]
      omega
  exact UInt32.lt_iff_toNat_lt.mpr (Nat.lt_of_le_of_lt upper lower)

/-- From there on the tone is the greatest word. -/
theorem sweepTone_of_lastStep_le (fits : step ≤ 0xffffffff) (beyond : lastStep ≤ step) :
    sweepTone step = 0xffffffff := by
  rw [lastStep] at beyond
  have greatest : 0xffffffff ≤ (sweepTone step).toNat := by
    apply le_sweepTone fits _ (Nat.le_refl _)
    simp only [partsPerOne, piParts]
    omega
  apply UInt32.toNat_inj.mp
  exact Nat.le_antisymm (Nat.le_of_lt_succ (UInt32.toNat_lt _)) greatest

/-- A tone is at least three times its step, as far as the word goes. -/
theorem three_mul_le_sweepTone (fits : step ≤ 0xffffffff) :
    min (3 * step) 0xffffffff ≤ (sweepTone step).toNat := by
  apply le_sweepTone fits _ (Nat.min_le_right _ _)
  calc min (3 * step) 0xffffffff * partsPerOne
      ≤ 3 * step * partsPerOne := Nat.mul_le_mul_right _ (Nat.min_le_left _ _)
    _ ≤ piParts * step := by
      simp only [partsPerOne, piParts]
      omega

end Bounds

/-! ## The sweep -/

section Sweep

variable {top : Nat}

theorem length_sweepTones (count step : Nat) : (sweepTones count step).length = count := by
  rw [sweepTones, List.length_map, List.length_range']

theorem getElem_sweepTones {count step index : Nat}
    (inside : index < (sweepTones count step).length) :
    (sweepTones count step)[index] = sweepTone (step + sweepStep * index) := by
  simp only [sweepTones, List.getElem_map, List.getElem_range']

/-- The steps are just those below the top. -/
theorem step_lt_top {index : Nat} :
    index < sweepCount top ↔ sweepStart + sweepStep * index < top := by
  simp only [sweepCount, sweepStart, sweepStep]
  omega

theorem sweepTones_ne_nil (above : sweepStart < top) :
    sweepTones (sweepCount top) sweepStart ≠ [] := by
  have first : 0 < sweepCount top := step_lt_top.mpr above
  intro empty
  have length := length_sweepTones (sweepCount top) sweepStart
  rw [empty] at length
  exact Nat.ne_of_gt first length.symm

/-- The tones rise just as long as no two of them are cut to the word. -/
theorem sweepTones_rise_iff (word : top ≤ 0xffffffff) :
    (sweepTones (sweepCount top) sweepStart).Pairwise (· < ·) ↔ top ≤ lastStep + sweepStep := by
  rw [List.pairwise_iff_getElem]
  constructor
  · intro rise
    by_contra beyond
    obtain ⟨index, reached⟩ : ∃ index, sweepStart + sweepStep * index = lastStep :=
      ⟨27342608, by decide⟩
    have next : sweepStart + sweepStep * (index + 1) = lastStep + sweepStep := by
      rw [Nat.mul_succ, ← Nat.add_assoc, reached]
    have late : index + 1 < (sweepTones (sweepCount top) sweepStart).length := by
      rw [length_sweepTones, step_lt_top, next]
      exact Nat.lt_of_not_le beyond
    have early := Nat.lt_of_succ_lt late
    have less := rise index (index + 1) early late (Nat.lt_succ_self index)
    rw [getElem_sweepTones, getElem_sweepTones, reached, next,
      sweepTone_of_lastStep_le (by decide) (Nat.le_refl _),
      sweepTone_of_lastStep_le (by decide) (Nat.le_add_right _ _)] at less
    exact absurd less (by decide)
  · intro within first second early late before
    rw [getElem_sweepTones, getElem_sweepTones]
    have below : sweepStart + sweepStep * second < top := by
      rw [length_sweepTones] at late
      exact step_lt_top.mp late
    apply sweepTone_lt
    · rw [Nat.add_assoc, ← Nat.mul_succ]
      exact Nat.add_le_add_left (Nat.mul_le_mul_left _ before) _
    · simp only [lastStep, sweepStart, sweepStep] at within below ⊢
      omega

/-- The last tone passes the top, unless this is the greatest word. -/
theorem sweepTones_le_iff (above : sweepStart < top) (word : top ≤ 0xffffffff) :
    (∀ tone ∈ sweepTones (sweepCount top) sweepStart, tone.toNat ≤ top) ↔ top = 0xffffffff := by
  constructor
  · intro within
    let last := sweepCount top - 1
    have late : last < (sweepTones (sweepCount top) sweepStart).length := by
      rw [length_sweepTones]
      have first : 0 < sweepCount top := step_lt_top.mpr above
      omega
    have tone := within _ (List.getElem_mem late)
    rw [getElem_sweepTones late] at tone
    have below : sweepStart + sweepStep * last < top := by
      rw [length_sweepTones] at late
      exact step_lt_top.mp late
    have passed := Nat.le_trans
      (three_mul_le_sweepTone (Nat.le_trans (Nat.le_of_lt below) word)) tone
    have near : top ≤ sweepStart + sweepStep * last + sweepStep := by
      simp only [last, sweepCount, sweepStart, sweepStep] at above ⊢
      omega
    simp only [sweepStart, sweepStep] at passed near below
    omega
  · rintro rfl tone -
    exact Nat.le_of_lt_succ (UInt32.toNat_lt tone)

end Sweep

end Performance

/-! ## Robots that accept all calls -/

section Accepting

variable {ρ : Type} [Robot ρ]

/-- The robot accepts every call that leaves the link alone, whichever of them it answered
before. -/
def Robot.Accepting (robot : ρ) : Prop :=
  ∀ calls : List Call, (∀ call ∈ calls, call.KeepsLink) → ∀ call : Call, call.KeepsLink →
    ∃ reply, (Robot.perform call (Robot.after robot calls)).result = .ok reply

theorem Robot.Accepting.exists_reply {robot : ρ} (accepting : Robot.Accepting robot) {call : Call}
    (keeps : call.KeepsLink) : ∃ reply, (Robot.perform call robot).result = .ok reply :=
  accepting [] (by simp) call keeps

theorem Robot.Accepting.perform {robot : ρ} (accepting : Robot.Accepting robot) {call : Call}
    (keeps : call.KeepsLink) : Robot.Accepting (Robot.perform call robot).robot :=
  fun calls all => accepting (call :: calls) (List.forall_mem_cons.mpr ⟨keeps, all⟩)

/-- Such a robot plays every score to its end. -/
theorem Robot.Accepting.failure_play {robot : ρ} (accepting : Robot.Accepting robot) {score : Score}
    (keeps : ∀ call ∈ score.calls, call.KeepsLink) : (score.play robot).failure = none := by
  induction score generalizing robot with
  | nil => rfl
  | cons cue rest ih =>
      cases cue with
      | report event => exact ih accepting keeps
      | call call reports =>
          rw [Score.calls_cons] at keeps
          obtain ⟨now, later⟩ := List.forall_mem_cons.mp keeps
          obtain ⟨reply, accepted⟩ := accepting.exists_reply now
          rw [Score.play_call_of_ok accepted]
          exact ih (accepting.perform now) later

/-- A simulated robot without a fault is one while it is connected. -/
theorem SimulatedRobot.Linked.accepting {robot : SimulatedRobot} (linked : robot.Linked) :
    Robot.Accepting robot := by
  intro calls
  induction calls generalizing robot with
  | nil =>
      intro _ call keeps
      exact exists_reply_of_unrefused
        (refusal_of_connected call linked.healthy linked.connected)
  | cons first rest ih =>
      intro all
      obtain ⟨now, later⟩ := List.forall_mem_cons.mp all
      obtain ⟨reply, accepted⟩ :=
        exists_reply_of_unrefused (refusal_of_connected first linked.healthy linked.connected)
      have further := linked.accept now
      rw [← robot_of_answered accepted] at further
      exact ih further later

end Accepting

/-! ## The tones of light and sound -/

/-- The tones that a call sounds. -/
def Call.sounds? : Call → Option UInt32
  | .noteOn hertz => some hertz
  | _ => none

/-- The tones that are sounded, in order. -/
def Journal.tones (journal : Journal) : List UInt32 := journal.calls.filterMap Call.sounds?

namespace Performance

variable {ρ τ : Type} [Robot ρ]

theorem sounds_toneCalls (tones : List UInt32) :
    (tones.flatMap toneCalls).filterMap Call.sounds? = tones := by
  induction tones with
  | nil => rfl
  | cons tone rest ih =>
      rw [List.flatMap_cons, List.filterMap_append, ih]
      rfl

theorem sounds_colourCalls (colours : List Colour) :
    (colours.flatMap colourCalls).filterMap Call.sounds? = [] := by
  induction colours with
  | nil => rfl
  | cons colour rest ih =>
      rw [List.flatMap_cons, List.filterMap_append, ih]
      rfl

theorem tones_lightAndSoundScript (top : UInt32) :
    (Journal.succeeded (lightAndSoundScript top)).tones =
      sweepTones (sweepCount top.toNat) sweepStart := by
  have rest : (.noteOff :: (wheel.flatMap colourCalls ++ Session.restCalls)).filterMap
      Call.sounds? = [] := by
    change ((wheel.flatMap colourCalls) ++ Session.restCalls).filterMap Call.sounds? = []
    rw [List.filterMap_append, sounds_colourCalls]
    rfl
  rw [Journal.tones, Journal.calls_succeeded, lightAndSoundScript, List.filterMap_append,
    sounds_toneCalls, rest, List.append_nil]

theorem sweepStart_lt_topOfEntry (raw : String) : sweepStart < (topOfEntry raw).toNat := by
  rw [topOfEntry]
  split
  next hertz read =>
    split
    next above => exact above
    next => decide
  next => decide

/-- For every entry, light and sound succeeds with a robot that accepts its calls, and its tones are
those of the steps from the start of the sweep up to below the top. There is one at least. They
rise just if the top is at most the step after the first one that is cut to the word, and only the
greatest word is a top that they do not pass. -/
theorem lightAndSound_tones (raw : String) (before : World ρ τ)
    (accepting : Robot.Accepting before.robot) :
    let top := topOfEntry raw
    ∃ after gain, lightAndSound top before = .ok () after ∧ World.Leads gain before after ∧
      sweepStart < top.toNat ∧
      gain.tones = sweepTones (sweepCount top.toNat) sweepStart ∧ gain.tones ≠ [] ∧
      (gain.tones.Pairwise (· < ·) ↔ top.toNat ≤ lastStep + sweepStep) ∧
      ((∀ tone ∈ gain.tones, tone ≤ top) ↔ top.toNat = 0xffffffff) := by
  intro top
  have above := sweepStart_lt_topOfEntry raw
  have word : top.toNat ≤ 0xffffffff := Nat.le_of_lt_succ (UInt32.toNat_lt top)
  have keeps : ∀ call ∈ Score.calls ((lightAndSoundScript top).map .silent), call.KeepsLink := by
    rw [Score.calls_silent]
    exact keepsLink_lightAndSoundScript top
  have completed := accepting.failure_play keeps
  obtain ⟨after, carries, ends⟩ := follows_lightAndSound top before
  rw [completed] at ends
  obtain ⟨_, -, ran⟩ := ends
  have leads := carries.leads
  rw [Score.records_play_of_none completed] at leads
  have tones := tones_lightAndSoundScript top
  refine ⟨after, _, ran, leads, above, tones, ?_⟩
  rw [tones]
  exact ⟨sweepTones_ne_nil above, sweepTones_rise_iff word, sweepTones_le_iff above word⟩

/-- A connected robot without a fault, and nothing in the journal yet. -/
def linkedWorld : World SimulatedRobot ManualTicker := ⟨{ connected := true }, {}, #[], 0⟩

theorem linked_linkedWorld : linkedWorld.robot.Linked := ⟨rfl, rfl, rfl⟩

/-- The standard top: the tones rise, and they pass it. -/
theorem lightAndSound_tones_standard :
    ∃ after gain, lightAndSound (topOfEntry "600") linkedWorld = .ok () after ∧
      World.Leads gain linkedWorld after ∧ gain.tones.Pairwise (· < ·) ∧
      ¬∀ tone ∈ gain.tones, tone ≤ topOfEntry "600" := by
  obtain ⟨after, gain, ran, leads, -, -, -, rise, within⟩ :=
    lightAndSound_tones "600" linkedWorld linked_linkedWorld.accepting
  refine ⟨after, gain, ran, leads, rise.mpr (by decide +kernel), ?_⟩
  rw [within]
  decide +kernel

/-- An entry at which every tone of the sweep is above its top. -/
theorem standard_top_passed :
    topOfEntry "600" = 600 ∧ Robot.Accepting linkedWorld.robot ∧
    let tones := (Act.leaves (lightAndSound 600) linkedWorld).history.tones
    tones = [628, 785, 942, 1100, 1257, 1414, 1571, 1728] ∧ ¬∀ tone ∈ tones, tone ≤ 600 := by
  have sounded : (Act.leaves (lightAndSound 600) linkedWorld).history.tones =
      [628, 785, 942, 1100, 1257, 1414, 1571, 1728] := by
    decide +kernel
  refine ⟨by decide +kernel, linked_linkedWorld.accepting, sounded, ?_⟩
  rw [sounded]
  exact fun within => absurd (within 628 List.mem_cons_self) (by decide)

end Performance

end Rover
