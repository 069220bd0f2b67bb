import Rover.Proofs.Frame
import Rover.Proofs.Recording.Course

/-!
# What a recording at the pace of the ticker gives

The first round that fails or is cancelled settles the whole outcome of a recording: its series, the
samples that it reports, and how often the ticker was asked for the period.
-/

namespace Rover

variable {ρ τ α : Type}

/-! ## Requests to a ticker -/

/-- The ticker goes from one state to another by giving these answers to requests for the period,
at whatever times, and nothing else changes it. -/
inductive Ticker.Asked [Ticker τ] (period : Nat) : τ → List Tick → τ → Prop
  | done (ticker : τ) : Asked period ticker [] ticker
  | tick (now : Nat) {ticker last : τ} {answers : List Tick}
      (later : Asked period (Ticker.tick period now ticker).ticker answers last) :
      Asked period ticker ((Ticker.tick period now ticker).tick :: answers) last

/-- One more request at the end. -/
theorem Ticker.Asked.concat [Ticker τ] {period : Nat} {ticker last : τ} {answers : List Tick}
    (asked : Ticker.Asked period ticker answers last) (now : Nat) :
    Ticker.Asked period ticker (answers ++ [(Ticker.tick period now last).tick])
      (Ticker.tick period now last).ticker := by
  induction asked with
  | done ticker => exact .tick now (.done _)
  | tick before _ ih => exact .tick before ih

/-! ## Rounds and further entries -/

/-- A line of the log is no deed. -/
theorem World.deeds_record_notice (told : Notice) (world : World ρ τ) :
    (world.record (.notice told)).history.deeds = world.history.deeds := by
  simp

namespace Act

variable {round : Nat → Act ρ τ α} {start : World ρ τ}

theorem worldAfter_preceded (blind : ∀ index, (round index).Blind) (earlier : Array Record)
    (passed : Nat) :
    worldAfter round (start.preceded earlier) passed =
      (worldAfter round start passed).preceded earlier := by
  induction passed with
  | zero => rfl
  | succ passed ih => rw [worldAfter, ih, (blind passed).leaves_preceded, worldAfter]

theorem course_preceded (blind : ∀ index, (round index).Blind) (earlier : Array Record)
    (passed : Nat) : course round (start.preceded earlier) passed = course round start passed := by
  rw [course, worldAfter_preceded blind, (blind passed).answer_preceded, course]

/-- Rounds that do not look at the journal bring the same after a further entry. -/
theorem course_record (blind : ∀ index, (round index).Blind) (entry : Record) (passed : Nat) :
    course round (start.record entry) passed = course round start passed := by
  rw [← start.preceded_bare_record entry, course_preceded blind, ← course_preceded blind
    start.journal, start.preceded_bare]

theorem gains_record (blind : ∀ index, (round index).Blind) (entry : Record) (count : Nat) :
    gains round (start.record entry) count = gains round start count := by
  simp only [gains, course_record blind]

end Act

namespace Recording

variable [Robot ρ] [Ticker τ]

theorem blind_round (period index : Nat) :
    (round period index : Act ρ τ (Binary64 × Tick)).Blind := by
  apply Act.blind_bind (Act.blind_call _)
  intro _
  apply Act.blind_bind (Act.blind_bind (Act.blind_notice _ _) fun _ => Act.blind_emit _)
  intro _
  exact Act.blind_bind (Act.blind_tick _) fun _ => Act.blind_pure _

/-! ## What rounds leave -/

/-- What a whole round leaves: the call of its sample, and the report. -/
def roundDeeds (index : Nat) (celsius : Binary64) : Journal :=
  [.call .temperature none, .event (.temperatureRecorded index celsius)]

/-- What the first whole rounds leave. -/
def deedsOf (taken : List Binary64) : Journal := (taken.mapIdx roundDeeds).flatten

theorem deedsOf_concat (taken : List Binary64) (celsius : Binary64) :
    deedsOf (taken ++ [celsius]) = deedsOf taken ++ roundDeeds taken.length celsius := by
  simp [deedsOf, List.mapIdx_append]

/-- The answers of the ticker in the first rounds. -/
def answers (period : Nat) (start : World ρ τ) (count : Nat) : List Tick :=
  (Act.gains (round period) start count).map Prod.snd

/-- So many samples were taken and reported, the ticker was asked once after each of them, and then
there are some further deeds. -/
structure Sampled (period : Nat) (start : World ρ τ) (count : Nat) (further : Journal)
    (after : World ρ τ) : Prop where
  length : (samples period start count).length = count
  deeds : after.history.deeds =
    start.history.deeds ++ deedsOf (samples period start count) ++ further
  asked : Ticker.Asked period start.ticker (answers period start count) after.ticker

/-- The world once a temperature was answered and is reported. -/
def noted (index : Nat) (celsius : Binary64) (before : World ρ τ) : World ρ τ :=
  let told : Notice := ⟨.debug, s!"Recorder: sample {index + 1} = {celsius.fixed 2} C"⟩
  let answered := Act.afterCall (Robot.perform .temperature before.robot) before
  (answered.record (.notice told)).record (.event (.temperatureRecorded index celsius))

omit [Ticker τ] in
theorem ticker_noted (index : Nat) (celsius : Binary64) (before : World ρ τ) :
    (noted index celsius before).ticker = before.ticker := by
  simp [noted]

omit [Ticker τ] in
theorem deeds_noted {index : Nat} {celsius : Binary64} {before : World ρ τ}
    (read : (Robot.perform .temperature before.robot).result = .ok celsius) :
    (noted index celsius before).history.deeds =
      before.history.deeds ++ roundDeeds index celsius := by
  simp [noted, roundDeeds, Act.failure?, read]

theorem round_of_read {index : Nat} {celsius : Binary64} {before : World ρ τ}
    (read : (Robot.perform .temperature before.robot).result = .ok celsius) (period : Nat) :
    let between := noted index celsius before
    let ticked := Ticker.tick period between.clock between.ticker
    round period index before = .ok (celsius, ticked.tick) (Act.afterTick ticked between) := by
  rw [round, Act.bind_of_ok (Act.call_of_ok read)]
  rfl

theorem round_of_unread {error : DeviceError} {before : World ρ τ}
    (unread : (Robot.perform .temperature before.robot).result = .error error)
    (period index : Nat) :
    round period index before =
      .error error (Act.afterCall (Robot.perform .temperature before.robot) before) := by
  rw [round, Act.bind_of_error (Act.call_of_error unread)]

/-- A round that comes to its end leaves its deeds and asks the ticker once. -/
theorem round_of_ok {period index : Nat} {before after : World ρ τ} {celsius : Binary64}
    {tick : Tick} (ran : round period index before = .ok (celsius, tick) after) :
    after.history.deeds = before.history.deeds ++ roundDeeds index celsius ∧
      ∃ now, tick = (Ticker.tick period now before.ticker).tick ∧
        after.ticker = (Ticker.tick period now before.ticker).ticker := by
  cases read : (Robot.perform .temperature before.robot).result with
  | error error =>
      rw [round_of_unread read] at ran
      cases ran
  | ok reading =>
      have deeds : (noted index reading before).history.deeds = _ := deeds_noted read
      have ticker := ticker_noted index reading before
      rw [round_of_read read] at ran
      obtain ⟨brings, left⟩ := EStateM.Result.ok.inj ran
      obtain ⟨same, ticked⟩ := Prod.mk.inj brings
      rw [ticker] at left ticked
      rw [← left, ← same]
      refine ⟨?_, _, ticked.symm, Act.ticker_afterTick _ _⟩
      rw [Act.history_afterTick, Journal.deeds_append, Journal.deeds_pauseRecords, List.append_nil,
        deeds]

/-- A round that fails leaves only the call, and does not ask the ticker. -/
theorem round_of_error {period index : Nat} {before after : World ρ τ} {error : DeviceError}
    (ran : round period index before = .error error after) :
    after.history.deeds = before.history.deeds ++ [.call .temperature (some error)] ∧
      after.ticker = before.ticker := by
  cases read : (Robot.perform .temperature before.robot).result with
  | ok reading =>
      rw [round_of_read read] at ran
      cases ran
  | error failure =>
      rw [round_of_unread read] at ran
      obtain ⟨same, left⟩ := EStateM.Result.error.inj ran
      rw [← left, ← same]
      refine ⟨?_, Act.ticker_afterCall _ _⟩
      rw [Act.deeds_afterCall, read]
      rfl

theorem sampled_worldAfter {period : Nat} {start : World ρ τ} {count : Nat}
    (complete : ∀ index < count, ∃ brought, Act.course (round period) start index = .ok brought) :
    Sampled period start count [] (Act.worldAfter (round period) start count) := by
  induction count with
  | zero =>
      refine ⟨rfl, ?_, .done start.ticker⟩
      rw [List.append_nil]
      exact (List.append_nil _).symm
  | succ count ih =>
      obtain ⟨length, deeds, asked⟩ :=
        ih fun index below => complete index (Nat.lt_succ_of_lt below)
      obtain ⟨⟨celsius, tick⟩, brings⟩ := complete count (Nat.lt_succ_self count)
      obtain ⟨added, now, answer, ticker⟩ := round_of_ok (Act.round_of_course_ok brings)
      have grown := samples_succ_of_ok brings
      refine ⟨?_, ?_, ?_⟩
      · rw [grown, List.length_append, length]
        rfl
      · rw [List.append_nil] at deeds ⊢
        rw [added, deeds, grown, deedsOf_concat, length, List.append_assoc]
      · rw [answers, Act.gains_succ_of_ok brings, List.map_append, List.map_singleton, answer,
          ticker]
        exact asked.concat now

/-! ## How a recording ends -/

/-- The first round that ends a recording, if there is one: its sample failed, or its tick was
cancelled. -/
def firstEnd? (period requested : Nat) (start : World ρ τ) : Option Nat :=
  (List.range requested).find? fun index => ends (Act.course (round period) start index)

/-- What is left of a recording once its samples are taken: one that is too short is reported. -/
def closing (taken requested : Nat) : Journal :=
  if taken = requested then [] else [.event (.recordingCancelled taken requested)]

section Closing

/-- The end of a recording, its samples being taken. -/
def close (requested : Nat) (taken : Array Binary64) : Act ρ τ Series := do
  let series : Series := { samples := taken, requested }
  if !series.isComplete then Act.emit (.recordingCancelled taken.size requested)
  pure series

variable {pace : Act ρ τ Bool} {period : Nat} {requested : Count} {before between : World ρ τ}

omit [Ticker τ] in
theorem take_eq (pace : Act ρ τ Bool) (period : Nat) (requested : Count) (before : World ρ τ) :
    take pace period requested before = (sampleFrom pace requested #[] >>= close requested)
      (before.record (.notice (announcement period requested))) := rfl

omit [Ticker τ] in
theorem close_eq (requested : Nat) (taken : Array Binary64) (before : World ρ τ) :
    ∃ after, close requested taken before = .ok ⟨taken, requested⟩ after ∧
      World.Leads (closing taken.size requested) before after ∧ after.ticker = before.ticker := by
  rw [closing]
  by_cases complete : taken.size = requested
  · have whole : Series.isComplete ⟨taken, requested⟩ = true := decide_eq_true complete
    rw [if_pos complete]
    refine ⟨before, ?_, .nowhere before, rfl⟩
    simp only [close, whole]
    rfl
  · have short : Series.isComplete ⟨taken, requested⟩ = false := decide_eq_false complete
    rw [if_neg complete]
    refine ⟨_, ?_, .event _ before, rfl⟩
    simp only [close, short]
    rfl

omit [Ticker τ] in
theorem take_of_error {error : DeviceError}
    (ran : sampleFrom pace requested #[]
      (before.record (.notice (announcement period requested))) = .error error between) :
    take pace period requested before = .error error between := by
  rw [take_eq, Act.bind_of_error ran]

omit [Ticker τ] in
theorem take_of_ok {taken : Array Binary64}
    (ran : sampleFrom pace requested #[]
      (before.record (.notice (announcement period requested))) = .ok taken between) :
    ∃ after, take pace period requested before = .ok ⟨taken, requested⟩ after ∧
      World.Leads (closing taken.size requested) between after ∧
      after.ticker = between.ticker := by
  rw [take_eq, Act.bind_of_ok ran]
  exact close_eq requested taken between

end Closing

/-- What is announced makes no difference to the samples. -/
theorem sampled_announced {period count : Nat} {before : World ρ τ} (told : Notice)
    (complete : ∀ index < count, ∃ brought, Act.course (round period) before index = .ok brought) :
    Sampled period before count []
      (Act.worldAfter (round period) (before.record (.notice told)) count) := by
  have same : Act.gains (round period) (before.record (.notice told)) count = _ :=
    Act.gains_record (blind_round period) _ count
  have whole : Sampled period (before.record (.notice told)) count [] _ :=
    sampled_worldAfter fun index below => by
      rw [Act.course_record (blind_round period)]
      exact complete index below
  obtain ⟨length, deeds, asked⟩ := whole
  simp only [samples, answers, same] at length deeds asked
  rw [World.deeds_record_notice] at deeds
  exact ⟨length, deeds, asked⟩

theorem Sampled.followed_by {period count : Nat} {start between after : World ρ τ}
    {first second : Journal} (sampled : Sampled period start count first between)
    (deeds : after.history.deeds = between.history.deeds ++ second)
    (ticker : after.ticker = between.ticker) :
    Sampled period start count (first ++ second) after where
  length := sampled.length
  deeds := by rw [deeds, sampled.deeds, List.append_assoc]
  asked := by
    rw [ticker]
    exact sampled.asked

/-- A round that does not end the recording is a whole one. -/
theorem exists_ok_of_not_ends {brought : Except DeviceError (Binary64 × Tick)}
    (goesOn : ¬ ends brought) : ∃ gain, brought = .ok gain := by
  cases brought with
  | error error => exact absurd rfl goesOn
  | ok gain => exact ⟨gain, rfl⟩

section FirstEnd

variable {period requested last : Nat} {start : World ρ τ}

theorem complete_of_none (first : firstEnd? period requested start = none) :
    ∀ index < requested, ∃ gain, Act.course (round period) start index = .ok gain := by
  intro index below
  have goesOn := List.find?_range_eq_none.mp first index below
  exact exists_ok_of_not_ends (by simpa using goesOn)

theorem complete_of_some (first : firstEnd? period requested start = some last) :
    ∀ index < last, ∃ gain, Act.course (round period) start index = .ok gain := by
  intro index below
  obtain ⟨-, -, goesOn⟩ := List.find?_range_eq_some.mp first
  exact exists_ok_of_not_ends (by simpa using goesOn index below)

/-- With its own sample taken the last round is whole, too. -/
theorem complete_of_some_ok {gain : Binary64 × Tick}
    (first : firstEnd? period requested start = some last)
    (brings : Act.course (round period) start last = .ok gain) :
    ∀ index < last + 1, ∃ gain, Act.course (round period) start index = .ok gain := by
  intro index below
  rcases Nat.lt_succ_iff_lt_or_eq.mp below with earlier | rfl
  · exact complete_of_some first index earlier
  · exact ⟨gain, brings⟩

end FirstEnd

/-- The first round that ends a recording settles its outcome. If there is none, the recording is
complete. If its sample failed, that failure is the result, and nothing is reported of this round.
Otherwise its tick was cancelled: its sample is kept, and the recording is reported as too short
unless this was the last round. -/
def Settled (period : Nat) (requested : Count) (before : World ρ τ) : Prop :=
  let recorded := withTicker period requested before
  let series := fun count : Nat => Series.mk (samples period before count).toArray requested
  match firstEnd? period requested before with
  | none =>
    ∃ after, recorded = .ok (series requested) after ∧ Sampled period before requested [] after
  | some last =>
    match Act.course (round period) before last with
    | .error error =>
      ∃ after, recorded = .error error after ∧
        Sampled period before last [.call .temperature (some error)] after
    | .ok _ =>
      ∃ after, recorded = .ok (series (last + 1)) after ∧
        Sampled period before (last + 1) (closing (last + 1) requested) after

theorem settled (period : Nat) (requested : Count) (before : World ρ τ) :
    Settled period requested before := by
  rw [Settled]
  let announced := before.record (.notice (announcement period requested))
  have course : ∀ index, Act.course (round period) announced index =
      Act.course (round period) before index := fun index =>
    Act.course_record (blind_round period) _ index
  have taken : ∀ count, samples period announced count = samples period before count := by
    intro count
    simp only [samples, announced, Act.gains_record (blind_round period)]
  have settled := sampleFrom_zero_eq period requested announced
  simp only [course, taken, resultAt] at settled
  cases first : firstEnd? period requested before with
  | none =>
      change List.find? _ _ = none at first
      simp only [first] at settled
      have whole : Sampled period before requested [] _ :=
        sampled_announced (announcement period requested) (complete_of_none first)
      obtain ⟨after, ran, leads, ticker⟩ := take_of_ok settled
      have full : closing (samples period before requested).toArray.size requested = [] := by
        rw [closing, List.size_toArray, whole.length, if_pos rfl]
      rw [full] at leads
      exact ⟨after, ran, whole.followed_by leads.deeds ticker⟩
  | some last =>
      dsimp only
      change List.find? _ _ = some last at first
      simp only [first] at settled
      cases brings : Act.course (round period) before last with
      | error error =>
          simp only [brings] at settled
          have whole : Sampled period before last [] _ :=
            sampled_announced (announcement period requested) (complete_of_some first)
          have failed := Act.round_of_course_error ((course last).trans brings)
          obtain ⟨deeds, ticker⟩ := round_of_error failed
          exact ⟨_, take_of_error settled, whole.followed_by deeds ticker⟩
      | ok gain =>
          simp only [brings] at settled
          have whole : Sampled period before (last + 1) [] _ :=
            sampled_announced (announcement period requested) (complete_of_some_ok first brings)
          obtain ⟨after, ran, leads, ticker⟩ := take_of_ok settled
          rw [List.size_toArray, whole.length] at leads
          exact ⟨after, ran, whole.followed_by leads.deeds ticker⟩

end Recording

end Rover
