import Rover.Proofs.Act

/-!
# Scores

A score is a row of calls and reports that is fixed before it is played. Playing it against a
robot tries the calls in order up to the first that fails. An action follows a score if from
every world it does what playing the score does, so that a fixed recipe of calls, written as an
action with all its loops, can be compared with a plain list.
-/

namespace Rover

/-- One entry of a score: a call, followed by the reports that its reply decides, or a report
alone. -/
inductive Cue where
  | call (call : Call) (reports : call.Reply → List Event)
  | report (event : Event)

namespace Cue

/-- A call whose reply is not reported. -/
def silent (call : Call) : Cue := .call call fun _ => []

/-- The call of an entry. -/
@[simp] def call? : Cue → Option Call
  | .call tried _ => some tried
  | .report _ => none

/-- Whether an entry can report an event. -/
@[simp] def Reports (event : Event) : Cue → Prop
  | .call _ reports => ∃ reply, event ∈ reports reply
  | .report reported => event = reported

end Cue

/-- Calls and reports in the order in which they are due. -/
abbrev Score := List Cue

/-- What is left once a score was played: the deeds, the failure that ended it early, and the
robot. -/
structure Played (ρ : Type) where
  records : Journal
  failure : Option DeviceError
  robot : ρ

namespace Played

variable {ρ τ α : Type}

/-- The same outcome after earlier deeds. -/
def precededBy (earlier : Journal) (played : Played ρ) : Played ρ :=
  { played with records := earlier ++ played.records }

@[simp] theorem records_precededBy (earlier : Journal) (played : Played ρ) :
    (played.precededBy earlier).records = earlier ++ played.records := rfl

@[simp] theorem failure_precededBy (earlier : Journal) (played : Played ρ) :
    (played.precededBy earlier).failure = played.failure := rfl

@[simp] theorem robot_precededBy (earlier : Journal) (played : Played ρ) :
    (played.precededBy earlier).robot = played.robot := rfl

@[simp] theorem precededBy_nil (played : Played ρ) : played.precededBy [] = played := rfl

/-- The result of an action that gives `value` unless a call fails. -/
def result (played : Played ρ) (value : α) (after : World ρ τ) :
    EStateM.Result DeviceError (World ρ τ) α :=
  match played.failure with
  | none => .ok value after
  | some error => .error error after

theorem result_of_none {played : Played ρ} (completed : played.failure = none) (value : α)
    (after : World ρ τ) : played.result value after = .ok value after := by
  rw [result, completed]

theorem result_of_some {played : Played ρ} {error : DeviceError}
    (failed : played.failure = some error) (value : α) (after : World ρ τ) :
    played.result value after = .error error after := by
  rw [result, failed]

theorem result_eq_ok_iff {played : Played ρ} {value : α} {after : World ρ τ} :
    played.result value after = .ok value after ↔ played.failure = none := by
  rw [result]
  cases played.failure <;> simp

theorem result_eq_error_iff {played : Played ρ} {error : DeviceError} {value : α}
    {after : World ρ τ} :
    played.result value after = .error error after ↔ played.failure = some error := by
  rw [result]
  cases played.failure <;> simp

/-- With or without a failure the world is left the same. -/
theorem leaves_of_result {played : Played ρ} {value : α} {action : Act ρ τ α}
    {before after : World ρ τ} (result : action before = played.result value after) :
    Act.leaves action before = after := by
  cases completed : played.failure with
  | none =>
      rw [result_of_none completed] at result
      exact Act.leaves_of_ok result
  | some error =>
      rw [result_of_some completed] at result
      exact Act.leaves_of_error result

/-- A world goes over into another one by what was played: nothing else is done to the robot,
nothing to the ticker, and the journal gains just these deeds. -/
structure Carries (played : Played ρ) (before after : World ρ τ) : Prop where
  robot : after.robot = played.robot
  ticker : after.ticker = before.ticker
  deeds : after.history.deeds = before.history.deeds ++ played.records

namespace Carries

variable {played : Played ρ} {before between after : World ρ τ}

theorem events (carries : played.Carries before after) :
    after.history.events = before.history.events ++ played.records.events := by
  rw [← Journal.events_deeds, carries.deeds, Journal.events_append, Journal.events_deeds]

theorem attempts (carries : played.Carries before after) :
    after.history.attempts = before.history.attempts ++ played.records.attempts := by
  rw [← Journal.attempts_deeds, carries.deeds, Journal.attempts_append, Journal.attempts_deeds]

/-- Lines of the log do not count. -/
theorem tell (carries : played.Carries before after) (notices : List Notice) :
    played.Carries before (after.tell notices) where
  robot := by rw [World.robot_tell, carries.robot]
  ticker := by rw [World.ticker_tell, carries.ticker]
  deeds := by
    rw [World.history_tell, Journal.deeds_append, Journal.deeds_notices, List.append_nil,
      carries.deeds]

/-- Two outcomes one after the other. -/
theorem trans {later : Played ρ} (carries : played.Carries before between)
    (further : later.Carries between after) :
    (later.precededBy played.records).Carries before after where
  robot := further.robot
  ticker := further.ticker.trans carries.ticker
  deeds := by rw [further.deeds, carries.deeds, records_precededBy, List.append_assoc]

end Carries

end Played

namespace Score

variable {ρ : Type}

/-- The calls in order. -/
def calls (score : Score) : List Call := score.filterMap Cue.call?

@[simp] theorem calls_nil : calls [] = [] := rfl

@[simp] theorem calls_cons (cue : Cue) (rest : Score) :
    calls (cue :: rest) = cue.call?.toList ++ calls rest := by
  cases cue <;> rfl

@[simp] theorem calls_append (first second : Score) :
    calls (first ++ second) = calls first ++ calls second := by
  simp [calls]

@[simp] theorem calls_silent (script : List Call) : calls (script.map Cue.silent) = script := by
  induction script with
  | nil => rfl
  | cons call rest ih => simp [Cue.silent, ih]

@[simp] theorem calls_reports (happened : List Event) : calls (happened.map Cue.report) = [] := by
  induction happened with
  | nil => rfl
  | cons event rest ih => simp [ih]

/-- Plays a score up to the first call that fails. -/
def play [Robot ρ] : Score → ρ → Played ρ
  | [], robot => ⟨[], none, robot⟩
  | .report event :: rest, robot => (play rest robot).precededBy [.event event]
  | .call call reports :: rest, robot =>
    match (Robot.perform call robot).result with
    | .ok reply =>
      (play rest (Robot.perform call robot).robot).precededBy
        (.call call none :: (reports reply).map .event)
    | .error error => ⟨[.call call (some error)], some error, (Robot.perform call robot).robot⟩

variable [Robot ρ]

@[simp] theorem play_nil (robot : ρ) : play [] robot = ⟨[], none, robot⟩ := rfl

@[simp] theorem play_report (event : Event) (rest : Score) (robot : ρ) :
    play (.report event :: rest) robot = (play rest robot).precededBy [.event event] := rfl

theorem play_call_of_ok {call : Call} {robot : ρ} {reply : call.Reply}
    (accepted : (Robot.perform call robot).result = .ok reply)
    (reports : call.Reply → List Event) (rest : Score) :
    play (.call call reports :: rest) robot =
      (play rest (Robot.perform call robot).robot).precededBy
        (.call call none :: (reports reply).map .event) := by
  simp only [play, accepted]

theorem play_call_of_error {call : Call} {robot : ρ} {error : DeviceError}
    (refused : (Robot.perform call robot).result = .error error)
    (reports : call.Reply → List Event) (rest : Score) :
    play (.call call reports :: rest) robot =
      ⟨[.call call (some error)], some error, (Robot.perform call robot).robot⟩ := by
  simp only [play, refused]

/-- Reports that are fixed are made whatever follows. -/
theorem play_map_report_append (happened : List Event) (rest : Score) (robot : ρ) :
    play (happened.map Cue.report ++ rest) robot =
      (play rest robot).precededBy (happened.map Record.event) := by
  induction happened with
  | nil => rfl
  | cons event happened ih =>
      simp only [List.map_cons, List.cons_append, play_report, ih]
      rfl

/-- What follows a score is played only if no call of the score fails. -/
theorem play_append (first second : Score) (robot : ρ) :
    play (first ++ second) robot =
      match (play first robot).failure with
      | none => (play second (play first robot).robot).precededBy (play first robot).records
      | some _ => play first robot := by
  induction first generalizing robot with
  | nil => simp
  | cons cue rest ih =>
      cases cue with
      | report event =>
          simp only [List.cons_append, play_report, ih, Played.failure_precededBy]
          split
          · simp [Played.precededBy]
          · rfl
      | call call reports =>
          cases outcome : (Robot.perform call robot).result with
          | error error => simp [play_call_of_error outcome]
          | ok reply =>
              simp only [List.cons_append, play_call_of_ok outcome, ih,
                Played.failure_precededBy]
              split
              · simp [Played.precededBy]
              · rfl

theorem play_append_of_none {first : Score} {robot : ρ}
    (completed : (play first robot).failure = none) (second : Score) :
    play (first ++ second) robot =
      (play second (play first robot).robot).precededBy (play first robot).records := by
  rw [play_append, completed]

theorem play_append_of_some {first : Score} {robot : ρ} {error : DeviceError}
    (failed : (play first robot).failure = some error) (second : Score) :
    play (first ++ second) robot = play first robot := by
  rw [play_append, failed]

end Score

/-- A script of calls as it is tried: either every call succeeds, or the calls before the first
failing one succeed, that one fails, and nothing after it is tried. -/
inductive Tried : List Call → List (Call × Option DeviceError) → Option DeviceError → Prop
  | all (script : List Call) : Tried script (script.map fun call => (call, none)) none
  | cut (before : List Call) (failing : Call) (rest : List Call) (error : DeviceError) :
      Tried (before ++ failing :: rest)
        ((before.map fun call => (call, none)) ++ [(failing, some error)]) (some error)

namespace Tried

/-- One more call in front that succeeds. -/
theorem cons {script : List Call} {attempts : List (Call × Option DeviceError)}
    {failure : Option DeviceError} (tried : Tried script attempts failure) (call : Call) :
    Tried (call :: script) ((call, none) :: attempts) failure := by
  cases tried with
  | all => exact .all (call :: script)
  | cut before failing rest error => exact .cut (call :: before) failing rest error

/-- A script that fails is not reached by what would come after it. -/
theorem append_of_some {script : List Call} {attempts : List (Call × Option DeviceError)}
    {error : DeviceError} (tried : Tried script attempts (some error)) (more : List Call) :
    Tried (script ++ more) attempts (some error) := by
  cases tried with
  | cut before failing rest =>
      rw [List.append_assoc, List.cons_append]
      exact .cut before failing (rest ++ more) error

theorem eq_nil {attempts : List (Call × Option DeviceError)} {failure : Option DeviceError}
    (tried : Tried [] attempts failure) : attempts = [] := by
  generalize same : ([] : List Call) = script at tried
  cases tried with
  | all =>
      subst same
      rfl
  | cut before => cases before <;> cases same

/-- The first call of a script fails and is the last to be tried, or the rest is tried, too. -/
theorem cons_cases {call : Call} {script : List Call}
    {attempts : List (Call × Option DeviceError)} {failure : Option DeviceError}
    (tried : Tried (call :: script) attempts failure) :
    (∃ error, attempts = [(call, some error)]) ∨
      ∃ later, attempts = (call, none) :: later ∧ Tried script later failure := by
  generalize same : call :: script = whole at tried
  cases tried with
  | all =>
      subst same
      exact .inr ⟨_, rfl, .all script⟩
  | cut before failing rest error =>
      cases before with
      | nil =>
          cases same
          exact .inl ⟨error, rfl⟩
      | cons first before =>
          cases same
          exact .inr ⟨_, rfl, .cut before failing rest error⟩

/-- A script without a failure was tried as a whole. -/
theorem eq_of_none {script : List Call} {attempts : List (Call × Option DeviceError)}
    (tried : Tried script attempts none) : attempts = script.map fun call => (call, none) := by
  cases tried with
  | all => rfl

/-- A script that fails was cut at one of its calls. -/
theorem exists_failed {script : List Call} {attempts : List (Call × Option DeviceError)}
    {error : DeviceError} (tried : Tried script attempts (some error)) :
    ∃ call ∈ script, (call, some error) ∈ attempts := by
  cases tried with
  | cut before failing rest error =>
      exact ⟨failing, List.mem_append_right _ List.mem_cons_self,
        List.mem_append_right _ (List.mem_singleton_self _)⟩

/-- A script fails with the failure of the one call that fails. -/
theorem findSome?_eq {script : List Call} {attempts : List (Call × Option DeviceError)}
    {failure : Option DeviceError} (tried : Tried script attempts failure) :
    attempts.findSome? Prod.snd = failure := by
  have noFailure (early : List Call) :
      (early.map fun call => (call, (none : Option DeviceError))).findSome? Prod.snd = none := by
    simp [List.findSome?_eq_none_iff]
  cases tried with
  | all => exact noFailure script
  | cut before failing rest error =>
      rw [List.findSome?_append, noFailure]
      rfl

theorem failure_eq_none_iff {script : List Call} {attempts : List (Call × Option DeviceError)}
    {failure : Option DeviceError} (tried : Tried script attempts failure) :
    failure = none ↔ ∀ attempt ∈ attempts, attempt.2 = none := by
  rw [← tried.findSome?_eq, List.findSome?_eq_none_iff]

/-- Only calls of the script are tried. -/
theorem subset {script : List Call} {attempts : List (Call × Option DeviceError)}
    {failure : Option DeviceError} (tried : Tried script attempts failure) :
    attempts.map Prod.fst ⊆ script := by
  intro call inside
  cases tried with
  | all => simpa using inside
  | cut before failing rest error =>
      rw [List.map_append, List.map_map] at inside
      rcases List.mem_append.mp inside with early | last
      · exact List.mem_append_left _ (by simpa using early)
      · exact List.mem_append_right _ (List.mem_cons.mpr (.inl (by simpa using last)))

/-- What was tried is the beginning of the script. -/
theorem isPrefix_calls {script : List Call} {journal : Journal} {failure : Option DeviceError}
    (tried : Tried script journal.attempts failure) : journal.calls <+: script := by
  rw [← Journal.map_fst_attempts]
  generalize journal.attempts = attempts at tried
  cases tried with
  | all => simp [Function.comp_def]
  | cut before failing rest error => exact ⟨rest, by simp [Function.comp_def]⟩

end Tried

/-- Playing a score tries its calls in order and cuts them just after the first failing one. -/
theorem Score.tried_play {ρ : Type} [Robot ρ] (score : Score) (robot : ρ) :
    Tried score.calls (score.play robot).records.attempts (score.play robot).failure := by
  induction score generalizing robot with
  | nil => exact .all []
  | cons cue rest ih =>
      cases cue with
      | report event => simpa using ih robot
      | call call reports =>
          cases outcome : (Robot.perform call robot).result with
          | ok reply =>
              rw [play_call_of_ok outcome]
              simpa using (ih (Robot.perform call robot).robot).cons call
          | error error =>
              rw [play_call_of_error outcome]
              simpa using Tried.cut [] call (calls rest) error

/-- Only calls of the score are tried. -/
theorem Score.calls_play_subset {ρ : Type} [Robot ρ] (score : Score) (robot : ρ) :
    (score.play robot).records.calls ⊆ score.calls := by
  rw [← Journal.map_fst_attempts]
  exact (Score.tried_play score robot).subset

/-- What was reported is in the score. -/
theorem Score.reports_of_mem_play {ρ : Type} [Robot ρ] {score : Score} {robot : ρ}
    {event : Event} (happened : event ∈ (score.play robot).records.events) :
    ∃ cue ∈ score, cue.Reports event := by
  induction score generalizing robot with
  | nil => cases happened
  | cons cue rest ih =>
      cases cue with
      | report reported =>
          rw [play_report, Played.records_precededBy, Journal.events_append] at happened
          rcases List.mem_append.mp happened with now | later
          · exact ⟨_, List.mem_cons_self, by simpa using now⟩
          · obtain ⟨cue, inside, reports⟩ := ih later
            exact ⟨cue, List.mem_cons_of_mem _ inside, reports⟩
      | call call reports =>
          cases outcome : (Robot.perform call robot).result with
          | ok reply =>
              rw [play_call_of_ok outcome, Played.records_precededBy,
                Journal.events_append] at happened
              rcases List.mem_append.mp happened with now | later
              · exact ⟨_, List.mem_cons_self, reply, by simpa using now⟩
              · obtain ⟨cue, inside, reports⟩ := ih later
                exact ⟨cue, List.mem_cons_of_mem _ inside, reports⟩
          | error error =>
              rw [play_call_of_error outcome] at happened
              simp at happened

/-- A script without reports leaves nothing but its calls. -/
theorem Score.records_play_silent {ρ : Type} [Robot ρ] (script : List Call) (robot : ρ) :
    (Score.play (script.map Cue.silent) robot).records =
      (Score.play (script.map Cue.silent) robot).records.attempts.map Record.ofAttempt := by
  induction script generalizing robot with
  | nil => rfl
  | cons call rest ih =>
      rw [List.map_cons, Cue.silent]
      cases outcome : (Robot.perform call robot).result with
      | ok reply =>
          rw [play_call_of_ok outcome]
          simpa [Record.ofAttempt] using ih (Robot.perform call robot).robot
      | error error =>
          rw [play_call_of_error outcome]
          rfl

theorem Score.tried_play_silent {ρ : Type} [Robot ρ] (script : List Call) (robot : ρ) :
    Tried script (Score.play (script.map Cue.silent) robot).records.attempts
      (Score.play (script.map Cue.silent) robot).failure := by
  have tried := Score.tried_play (script.map Cue.silent) robot
  rwa [Score.calls_silent] at tried

/-- The entries of calls that all succeeded. -/
def Journal.succeeded (script : List Call) : Journal := script.map fun call => .call call none

@[simp] theorem Journal.calls_succeeded (script : List Call) :
    (Journal.succeeded script).calls = script := by
  induction script with
  | nil => rfl
  | cons call rest ih =>
      rw [Journal.succeeded, List.map_cons, Journal.calls_cons, ← Journal.succeeded, ih]
      rfl

/-- A script that comes to its end leaves just its calls. -/
theorem Score.records_play_of_none {ρ : Type} [Robot ρ] {script : List Call} {robot : ρ}
    (completed : (Score.play (script.map Cue.silent) robot).failure = none) :
    (Score.play (script.map Cue.silent) robot).records = Journal.succeeded script := by
  have tried := Score.tried_play_silent script robot
  rw [completed] at tried
  rw [Score.records_play_silent, tried.eq_of_none, List.map_map]
  rfl

namespace Act

variable {ρ τ α β : Type} [Robot ρ]

/-- The action does what the score says, from every world: it fails exactly where the score
does, gives a value as described otherwise, and leaves the world as the score does. -/
def Follows (action : Act ρ τ α) (score : Score) (gives : α → Prop) : Prop :=
  ∀ before : World ρ τ, ∃ after, (score.play before.robot).Carries before after ∧
    match (score.play before.robot).failure with
    | none => ∃ value, gives value ∧ action before = .ok value after
    | some error => action before = .error error after

theorem follows_pure {gives : α → Prop} {value : α} (given : gives value) :
    Follows (pure value : Act ρ τ α) [] gives := by
  intro before
  exact ⟨before, ⟨rfl, rfl, by simp⟩, value, given, rfl⟩

theorem follows_notice (level : Level) (text : String) :
    Follows (notice level text : Act ρ τ Unit) [] fun _ => True := by
  intro before
  exact ⟨before.record (.notice ⟨level, text⟩), ⟨rfl, rfl, by simp⟩, (), trivial,
    notice_eq level text before⟩

theorem follows_emit (event : Event) :
    Follows (emit event : Act ρ τ Unit) [.report event] fun _ => True := by
  intro before
  exact ⟨before.record (.event event), ⟨rfl, rfl, by simp⟩, (), trivial, emit_eq event before⟩

/-- A call, and then what its reply asks for. -/
theorem follows_call_bind {call : Call} {reports : call.Reply → List Event} {more : Score}
    {gives : α → Prop} {next : call.Reply → Act ρ τ α}
    (follows : ∀ reply, Follows (next reply) ((reports reply).map .report ++ more) gives) :
    Follows (Act.call call >>= next) (.call call reports :: more) gives := by
  intro before
  cases outcome : (Robot.perform call before.robot).result with
  | error error =>
      rw [Score.play_call_of_error outcome]
      refine ⟨_, ⟨?_, ?_, ?_⟩, bind_of_error (call_of_error outcome)⟩
      · simp
      · simp
      · simp [outcome, failure?]
  | ok reply =>
      have world : (afterCall (Robot.perform call before.robot) before).robot =
          (Robot.perform call before.robot).robot := by simp
      rcases follows reply (afterCall _ before) with ⟨after, carries, ends⟩
      rw [world, Score.play_map_report_append] at carries ends
      rw [Score.play_call_of_ok outcome]
      refine ⟨after, ⟨?_, ?_, ?_⟩, ?_⟩
      · simpa using carries.robot
      · simpa using carries.ticker
      · rw [carries.deeds]
        simp [outcome, failure?]
      · rw [bind_of_ok (call_of_ok outcome)]
        exact ends

/-- One action after the other follows one score after the other. -/
theorem follows_bind {action : Act ρ τ α} {next : α → Act ρ τ β} {first second : Score}
    {gives : α → Prop} {gives' : β → Prop} (follows : Follows action first gives)
    (continues : ∀ value, gives value → Follows (next value) second gives') :
    Follows (action >>= next) (first ++ second) gives' := by
  intro before
  rcases follows before with ⟨between, carries, ends⟩
  cases completed : (first.play before.robot).failure with
  | some error =>
      rw [completed] at ends
      rw [Score.play_append_of_some completed, completed]
      exact ⟨between, carries, bind_of_error ends⟩
  | none =>
      rw [completed] at ends
      rcases ends with ⟨value, given, ran⟩
      rcases continues value given between with ⟨after, further, ends⟩
      rw [carries.robot] at further ends
      rw [Score.play_append_of_none completed, bind_of_ok ran]
      exact ⟨after, carries.trans further, ends⟩

/-- What follows neither calls nor reports anything. -/
theorem follows_bind_quiet {action : Act ρ τ α} {next : α → Act ρ τ β} {score : Score}
    {gives : α → Prop} {gives' : β → Prop} (follows : Follows action score gives)
    (continues : ∀ value, gives value → Follows (next value) [] gives') :
    Follows (action >>= next) score gives' := by
  rw [← List.append_nil score]
  exact follows_bind follows continues

theorem follows_notice_bind {level : Level} {text : String} {next : Unit → Act ρ τ α}
    {score : Score} {gives : α → Prop} (follows : Follows (next ()) score gives) :
    Follows (notice level text >>= next) score gives := by
  rw [← List.nil_append score]
  exact follows_bind (follows_notice level text) fun _ _ => follows

theorem follows_emit_bind {event : Event} {next : Unit → Act ρ τ α} {score : Score}
    {gives : α → Prop} (follows : Follows (next ()) score gives) :
    Follows (emit event >>= next) (.report event :: score) gives :=
  follows_bind (follows_emit event) fun _ _ => follows

theorem follows_silent_bind {call : Call} {next : call.Reply → Act ρ τ α} {score : Score}
    {gives : α → Prop} (follows : ∀ reply, Follows (next reply) score gives) :
    Follows (Act.call call >>= next) (.silent call :: score) gives :=
  follows_call_bind follows

theorem follows_call (call : Call) :
    Follows (Act.call call : Act ρ τ call.Reply) [.silent call] fun _ => True := by
  rw [← bind_pure (Act.call call)]
  exact follows_silent_bind fun _ => follows_pure trivial

/-- A weaker account of the value. -/
theorem Follows.weaken {action : Act ρ τ α} {score : Score} {gives gives' : α → Prop}
    (follows : Follows action score gives) (weaker : ∀ value, gives value → gives' value) :
    Follows action score gives' := by
  intro before
  rcases follows before with ⟨after, carries, ends⟩
  refine ⟨after, carries, ?_⟩
  cases completed : (score.play before.robot).failure with
  | some error =>
      rw [completed] at ends
      exact ends
  | none =>
      rw [completed] at ends
      rcases ends with ⟨value, given, ran⟩
      exact ⟨value, weaker value given, ran⟩

/-- Whether it succeeds or fails, an action leaves the world as its score does. -/
theorem Follows.carries {action : Act ρ τ α} {score : Score} {gives : α → Prop}
    (follows : Follows action score gives) (before : World ρ τ) :
    (score.play before.robot).Carries before (leaves action before) := by
  rcases follows before with ⟨after, carries, ends⟩
  cases completed : (score.play before.robot).failure with
  | some error =>
      rw [completed] at ends
      rwa [leaves_of_error ends]
  | none =>
      rw [completed] at ends
      rcases ends with ⟨value, -, ran⟩
      rwa [leaves_of_ok ran]

theorem Follows.of_ok {action : Act ρ τ α} {score : Score} {gives : α → Prop}
    {before after : World ρ τ} {value : α} (follows : Follows action score gives)
    (ran : action before = .ok value after) :
    (score.play before.robot).failure = none ∧ (score.play before.robot).Carries before after ∧
      gives value := by
  rcases follows before with ⟨between, carries, ends⟩
  cases completed : (score.play before.robot).failure with
  | some error =>
      rw [completed, ran] at ends
      cases ends
  | none =>
      rw [completed, ran] at ends
      rcases ends with ⟨_, given, same⟩
      cases same
      exact ⟨rfl, carries, given⟩

theorem Follows.of_error {action : Act ρ τ α} {score : Score} {gives : α → Prop}
    {before after : World ρ τ} {error : DeviceError} (follows : Follows action score gives)
    (ran : action before = .error error after) :
    (score.play before.robot).failure = some error ∧
      (score.play before.robot).Carries before after := by
  rcases follows before with ⟨between, carries, ends⟩
  cases completed : (score.play before.robot).failure with
  | some _ =>
      rw [completed, ran] at ends
      cases ends
      exact ⟨rfl, carries⟩
  | none =>
      rw [completed, ran] at ends
      rcases ends with ⟨_, _, same⟩
      cases same

/-- With its value settled, all of an action is settled by its score. -/
theorem Follows.result_eq {action : Act ρ τ α} {score : Score} {value : α}
    (follows : Follows action score (· = value)) (before : World ρ τ) :
    ∃ after, action before = (score.play before.robot).result value after ∧
      (score.play before.robot).Carries before after := by
  rcases follows before with ⟨after, carries, ends⟩
  refine ⟨after, ?_, carries⟩
  cases completed : (score.play before.robot).failure with
  | some error =>
      rw [completed] at ends
      rw [Played.result_of_some completed]
      exact ends
  | none =>
      rw [completed] at ends
      rcases ends with ⟨_, rfl, ran⟩
      rw [Played.result_of_none completed]
      exact ran

end Act

end Rover
