import Rover.Proofs.Session.Connect

/-!
# Attempts to connect

Attempts that did not reach the robot are passed by, whether or not the red LED could be lit. The
first attempt that reached it, or that another call put an end to, settles the outcome, and without
one the robot is unreachable.
-/

namespace Rover

variable {ρ τ : Type}

/-! ## Replies to attempts -/

section Replies

variable [Robot ρ]

/-- The replies of the robot to the attempts to connect among deeds. -/
def Robot.replies (robot : ρ) : Journal → List (Except DeviceError Bool)
  | [] => []
  | .call .connect _ :: rest =>
    let response := Robot.perform .connect robot
    response.result :: replies response.robot rest
  | .call call _ :: rest => replies (Robot.perform call robot).robot rest
  | _ :: rest => replies robot rest

theorem Robot.replies_call_of_ne {call : Call} (other : call ≠ .connect) (robot : ρ)
    (failure : Option DeviceError) (rest : Journal) :
    Robot.replies robot (.call call failure :: rest) =
      Robot.replies (Robot.perform call robot).robot rest := by
  cases call with
  | connect => exact absurd rfl other
  | _ => rfl

theorem Robot.replies_append {start middle : ρ} {first : Journal}
    (exchange : Exchange start first middle) (second : Journal) :
    Robot.replies start (first ++ second) =
      Robot.replies start first ++ Robot.replies middle second := by
  induction exchange with
  | done => rfl
  | event happened _ ih => exact ih
  | @call tried robot _ _ _ ih =>
      by_cases knocks : tried = .connect
      · subst knocks
        exact congrArg (List.cons _) ih
      · rw [List.cons_append, Robot.replies_call_of_ne knocks, Robot.replies_call_of_ne knocks, ih]

/-- There is one reply to each attempt. -/
theorem Robot.length_replies (robot : ρ) (gain : Journal) :
    (Robot.replies robot gain).length = gain.calls.count .connect := by
  induction gain generalizing robot with
  | nil => rfl
  | cons deed rest ih =>
      cases deed with
      | call tried failure =>
          by_cases knocks : tried = .connect
          · subst knocks
            simp [Robot.replies, ih]
          · rw [Robot.replies_call_of_ne knocks, ih]
            simp [knocks]
      | event happened => simpa [Robot.replies] using ih robot
      | notice told => simpa [Robot.replies] using ih robot
      | pause nanoseconds => simpa [Robot.replies] using ih robot

end Replies

namespace Session

/-! ## One attempt -/

/-- What becomes of an attempt to connect. -/
inductive Attempt where
  /-- The call failed. -/
  | refused (error : DeviceError)
  /-- The robot was not reached, and the red LED failed. -/
  | unlit (error : DeviceError)
  /-- The robot was not reached, and this was shown. -/
  | held
  /-- The robot was not reached, and the wait failed once the red LED was lit. -/
  | unheld (error : DeviceError)
  /-- The robot was reached, and the blue LED or the wait failed. -/
  | unshown (tried : List (Call × Option DeviceError)) (error : DeviceError)
  /-- The robot was reached, this was shown, and the reset was tried. -/
  | welcomed (tried : List (Call × Option DeviceError)) (failure : Option DeviceError)

namespace Attempt

/-- The reply to the call. -/
def reply : Attempt → Except DeviceError Bool
  | refused error => .error error
  | unlit _ | held | unheld _ => .ok false
  | unshown _ _ | welcomed _ _ => .ok true

/-- What comes of a reset at the end. -/
def afterReset : Option DeviceError → Except Error Bool
  | none => .ok true
  | some error => .error (.device error)

/-- The outcome of an attempt that is the last one. The attempts go on after any other. -/
def verdict? : Attempt → Option (Except Error Bool)
  | refused error | unheld error | unshown _ error => some (.error (.device error))
  | unlit _ | held => none
  | welcomed _ failure => some (afterReset failure)

/-- The robot was reached and this was shown. -/
def isWelcomed : Attempt → Bool
  | welcomed _ _ => true
  | _ => false

theorem verdict?_ne_false (attempt : Attempt) : attempt.verdict? ≠ some (.ok false) := by
  cases attempt with
  | welcomed tried failure => cases failure <;> simp [verdict?, afterReset]
  | _ => simp [verdict?]

theorem not_isWelcomed {attempt : Attempt} (undecided : attempt.verdict? = none) :
    attempt.isWelcomed = false := by
  cases attempt with
  | welcomed tried failure => cases undecided
  | _ => rfl

/-- The robot is connected just if the reset came to its end, too. -/
theorem verdict?_eq_true_iff (attempt : Attempt) :
    attempt.verdict? = some (.ok true) ↔ ∃ tried, attempt = .welcomed tried none := by
  cases attempt with
  | welcomed tried failure => cases failure <;> simp [verdict?, afterReset]
  | _ => simp [verdict?]

/-- The attempts go on after one that did not reach the robot, unless the wait failed. -/
theorem verdict?_eq_none_iff (attempt : Attempt) :
    attempt.verdict? = none ↔ attempt.reply = .ok false ∧ ∀ error, attempt ≠ .unheld error := by
  cases attempt <;> simp [verdict?, reply]

/-- The calls after that of the attempt are tried up to the first that fails. -/
def Proper (config : Config) : Attempt → Prop
  | unshown tried error => Tried (shownCalls config) tried (some error)
  | welcomed tried failure => Tried restCalls tried failure
  | _ => True

/-- The deeds of the attempt of a number: it is reported right after its call was answered. -/
def deeds (config : Config) (number : Nat) : Attempt → Journal
  | refused error => [.call .connect (some error)]
  | unlit error =>
    [.call .connect none, .event (.connectAttempt number false),
      .call (.setLed ⟨255, 0, 0⟩) (some error)]
  | held =>
    [.call .connect none, .event (.connectAttempt number false),
      .call (.setLed ⟨255, 0, 0⟩) none, .call (.wait config.feedbackMillis) none]
  | unheld error =>
    [.call .connect none, .event (.connectAttempt number false),
      .call (.setLed ⟨255, 0, 0⟩) none, .call (.wait config.feedbackMillis) (some error)]
  | unshown tried _ =>
    [.call .connect none, .event (.connectAttempt number true)] ++ tried.map .ofAttempt
  | welcomed tried failure =>
    [.call .connect none, .event (.connectAttempt number true)] ++
      (Journal.succeeded (shownCalls config) ++
        (tried.map .ofAttempt ++ if failure = none then [.event .robotReset] else []))

end Attempt

variable [Robot ρ]

/-- What the first of the attempts does: it settles their outcome, or the others follow. -/
structure Does (attempts others : Operation ρ τ Bool) (number : Nat) (before : Desk ρ τ)
    (attempt : Attempt) (between : Desk ρ τ) : Prop where
  proper : attempt.Proper before.session.config
  reply : (Robot.perform .connect before.world.robot).result = attempt.reply
  leads : World.Leads (attempt.deeds before.session.config number) before.world between.world
  session : between.session =
    if attempt.isWelcomed then { before.session with connected := true } else before.session
  settles : ∀ verdict, attempt.verdict? = some verdict →
    Act.answer attempts before = verdict ∧ Act.leaves attempts before = between
  goesOn : attempt.verdict? = none → attempts before = others between

/-- What a reset at the end is reported by. -/
def resetReport : Except Error Bool → List Event
  | .ok true => [.robotReset]
  | _ => []

omit [Robot ρ] in
theorem Attempt.events_deeds (config : Config) (number : Nat) (attempt : Attempt) :
    (attempt.deeds config number).events =
      attempt.reply.toOption.toList.map (.connectAttempt number) ++
        (attempt.verdict?.map resetReport).getD [] := by
  cases attempt with
  | refused error => rfl
  | unlit error | held | unheld error => rfl
  | unshown tried error => simp [deeds, reply, verdict?, resetReport, Except.toOption]
  | welcomed tried failure =>
      cases failure <;> simp [deeds, reply, verdict?, afterReset, resetReport, Except.toOption,
        Journal.succeeded, shownCalls]

omit [Robot ρ] in
/-- The robot is called once. -/
theorem Attempt.count_connect {config : Config} {attempt : Attempt} (proper : attempt.Proper config)
    (number : Nat) : (attempt.deeds config number).calls.count .connect = 1 := by
  cases attempt with
  | refused error => rfl
  | unlit error | held | unheld error => rfl
  | unshown tried error =>
      have other : .connect ∉ tried.map Prod.fst := fun inside => by
        simpa [shownCalls] using proper.subset inside
      simp [deeds, List.count_eq_zero.mpr other]
  | welcomed tried failure =>
      have other : .connect ∉ tried.map Prod.fst := fun inside => by
        simpa [restCalls] using proper.subset inside
      have quiet : Journal.calls (if failure = none then [.event .robotReset] else []) = [] := by
        split <;> rfl
      simp [deeds, List.count_eq_zero.mpr other, quiet, Journal.succeeded, shownCalls]

theorem Does.replies_append {attempts others : Operation ρ τ Bool} {number : Nat}
    {before between : Desk ρ τ} {attempt : Attempt}
    (does : Does attempts others number before attempt between) (rest : Journal) :
    Robot.replies before.world.robot (attempt.deeds before.session.config number ++ rest) =
      attempt.reply :: Robot.replies between.world.robot rest := by
  have once := Attempt.count_connect does.proper number
  rw [← Robot.length_replies before.world.robot] at once
  have first : ∃ later, Robot.replies before.world.robot
      (attempt.deeds before.session.config number) = attempt.reply :: later := by
    rw [← does.reply]
    cases attempt <;> exact ⟨_, rfl⟩
  obtain ⟨later, replies⟩ := first
  rw [replies, List.length_cons] at once
  have empty : later = [] := List.eq_nil_of_length_eq_zero (Nat.succ.inj once)
  rw [Robot.replies_append does.leads.robot, replies, empty]
  rfl

section Attempt

variable {remaining : Nat} {before : Desk ρ τ} (number : Nat)

theorem does_refused {error : DeviceError}
    (refused : (Robot.perform .connect before.world.robot).result = .error error) :
    Does (connectFrom (remaining + 1) number) (connectFrom remaining (number + 1)) number before
      (.refused error) ⟨before.session, answered before.world⟩ where
  proper := trivial
  reply := refused
  leads := .call_of_error refused
  session := rfl
  settles := by
    rintro _ ⟨rfl⟩
    have ran : connectFrom (remaining + 1) number before = _ := connectFrom_of_error number refused
    exact ⟨by rw [Act.answer, ran], Act.leaves_of_error ran⟩
  goesOn := by rintro ⟨⟩

/-- The robot was reached and this was shown, so the reset is tried and settles the outcome. -/
theorem does_welcomed {shown : World ρ τ}
    (reached : (Robot.perform .connect before.world.robot).result = .ok true)
    (showed : showReached before.session.config
      (greeted number (reported number true before.world)) = .ok () shown)
    (shows : World.Leads ([.call .connect none, .event (.connectAttempt number true)] ++
      Journal.succeeded (shownCalls before.session.config)) before.world shown) :
    ∃ attempt between, Does (connectFrom (remaining + 1) number)
      (connectFrom remaining (number + 1)) number before attempt between := by
  let resting := restScore.play shown.robot
  obtain ⟨after, rest, rests⟩ := (follows_quiesceAndReport (ρ := ρ) (τ := τ)).result_eq shown
  have whole := shows.trans rests.leads
  rw [records_play_restScore, List.append_assoc] at whole
  have tried : Tried restCalls resting.records.attempts resting.failure :=
    Score.tried_play restScore shown.robot
  have onward : connectFrom (remaining + 1) number before = _ :=
    connectFrom_of_reached number reached
  refine ⟨.welcomed resting.records.attempts resting.failure,
    ⟨{ before.session with connected := true }, after⟩, tried, reached, whole, rfl, ?_,
    by rintro ⟨⟩⟩
  rintro _ ⟨rfl⟩
  cases rested : resting.failure with
  | none =>
      rw [Played.result_of_none rested] at rest
      rw [Act.bind_of_ok ((welcome_of_shown showed).trans (Operation.act_of_ok rest))] at onward
      exact ⟨by rw [Act.answer, onward]; rfl, Act.leaves_of_ok onward⟩
  | some error =>
      rw [Played.result_of_some rested] at rest
      rw [Act.bind_of_error ((welcome_of_shown showed).trans (Operation.act_of_error rest))]
        at onward
      exact ⟨by rw [Act.answer, onward]; rfl, Act.leaves_of_error onward⟩

/-- The robot was reached: this is shown, and then the reset is tried. -/
theorem does_reached
    (reached : (Robot.perform .connect before.world.robot).result = .ok true) :
    ∃ attempt between, Does (connectFrom (remaining + 1) number)
      (connectFrom remaining (number + 1)) number before attempt between := by
  let config := before.session.config
  let start := greeted number (reported number true before.world)
  let showing := Score.play ((shownCalls config).map .silent) start.robot
  have knocks : World.Leads [.call .connect none, .event (.connectAttempt number true)]
      before.world start :=
    (leads_reported number reached).trans (.notice _ _)
  obtain ⟨shown, ran, carries⟩ := (follows_showReached config).result_eq start
  have shows := knocks.trans carries.leads
  cases showed : showing.failure with
  | some error =>
      have tried : Tried (shownCalls config) showing.records.attempts showing.failure :=
        Score.tried_play_silent (shownCalls config) start.robot
      have onward : connectFrom (remaining + 1) number before = _ :=
        connectFrom_of_reached number reached
      rw [showed] at tried
      rw [Played.result_of_some showed] at ran
      rw [Score.records_play_silent] at shows
      rw [Act.bind_of_error (welcome_of_unshown ran)] at onward
      refine ⟨.unshown showing.records.attempts error, ⟨before.session, shown⟩,
        tried, reached, shows, rfl, ?_, by rintro ⟨⟩⟩
      rintro _ ⟨rfl⟩
      exact ⟨by rw [Act.answer, onward], Act.leaves_of_error onward⟩
  | none =>
      rw [Played.result_of_none showed] at ran
      rw [Score.records_play_of_none showed] at shows
      exact does_welcomed number reached ran shows

/-- The robot was not reached: this is shown as far as the red LED can be lit, and only a wait that
fails after it puts an end to the attempts. -/
theorem does_missed
    (missed : (Robot.perform .connect before.world.robot).result = .ok false) :
    ∃ attempt between, Does (connectFrom (remaining + 1) number)
      (connectFrom remaining (number + 1)) number before attempt between := by
  let config := before.session.config
  let noticed := lamented config number (reported number false before.world)
  let lit := reddened noticed
  let waited := Act.afterCall (Robot.perform (.wait config.feedbackMillis) lit.robot) lit
  have knocks : World.Leads [.call .connect none, .event (.connectAttempt number false)]
      before.world noticed :=
    (leads_reported number missed).trans (.notice _ _)
  have onward : connectFrom (remaining + 1) number before = _ :=
    connectFrom_of_missed number missed
  cases shown : (Robot.perform (.setLed ⟨255, 0, 0⟩) noticed.robot).result with
  | error error =>
      rw [Act.bind_of_ok (Operation.act_of_ok (showUnreached_of_unlit shown))] at onward
      exact ⟨.unlit error, ⟨before.session, lit⟩, trivial, missed,
        knocks.trans (.call_of_error shown), rfl, by rintro _ ⟨⟩, fun _ => onward⟩
  | ok reply =>
      have unreached := showUnreached_of_lit shown
      have shows := knocks.trans (.call_of_ok shown)
      cases held : (Robot.perform (.wait config.feedbackMillis) lit.robot).result with
      | error error =>
          rw [Act.call_of_error held] at unreached
          rw [Act.bind_of_error (Operation.act_of_error unreached)] at onward
          refine ⟨.unheld error, ⟨before.session, waited⟩, trivial, missed,
            shows.trans (.call_of_error held), rfl, ?_, by rintro ⟨⟩⟩
          rintro _ ⟨rfl⟩
          exact ⟨by rw [Act.answer, onward], Act.leaves_of_error onward⟩
      | ok reply =>
          rw [Act.call_of_ok held] at unreached
          rw [Act.bind_of_ok (Operation.act_of_ok unreached)] at onward
          exact ⟨.held, ⟨before.session, waited⟩, trivial, missed,
            shows.trans (.call_of_ok held), rfl, by rintro _ ⟨⟩, fun _ => onward⟩

theorem exists_does (remaining number : Nat) (before : Desk ρ τ) :
    ∃ attempt between, Does (connectFrom (remaining + 1) number)
      (connectFrom remaining (number + 1)) number before attempt between := by
  cases outcome : (Robot.perform .connect before.world.robot).result with
  | error error => exact ⟨_, _, does_refused number outcome⟩
  | ok reached =>
      cases reached with
      | true => exact does_reached number outcome
      | false => exact does_missed number outcome

end Attempt

/-! ## A row of attempts -/

/-- The attempts that are made, of so many that are allowed, and their outcome. They go on until one
settles it, or none is left. -/
inductive Row (config : Config) : Nat → List Attempt → Except Error Bool → Prop
  | exhausted : Row config 0 [] (.ok false)
  | goesOn {left : Nat} {attempt : Attempt} {others : List Attempt} {outcome : Except Error Bool}
      (undecided : attempt.verdict? = none) (later : Row config left others outcome) :
      Row config (left + 1) (attempt :: others) outcome
  | settled {left : Nat} {attempt : Attempt} {outcome : Except Error Bool}
      (proper : attempt.Proper config) (decides : attempt.verdict? = some outcome) :
      Row config (left + 1) [attempt] outcome

/-- The deeds of attempts that are numbered on from the first. -/
def deedsFrom (config : Config) : Nat → List Attempt → Journal
  | _, [] => []
  | number, attempt :: others =>
    attempt.deeds config number ++ deedsFrom config (number + 1) others

/-- Attempts are made up to the one that settles their outcome, and the session changes just if one
of them was shown to have reached the robot. -/
theorem connectFrom_row (remaining number : Nat) (before : Desk ρ τ) :
    let config := before.session.config
    let row : Operation ρ τ Bool := connectFrom remaining number
    let after := Act.leaves row before
    ∃ attempts, Row config remaining attempts (Act.answer row before) ∧
      World.Leads (deedsFrom config number attempts) before.world after.world ∧
      Robot.replies before.world.robot (deedsFrom config number attempts) =
        attempts.map Attempt.reply ∧
      after.session =
        if attempts.any Attempt.isWelcomed then { before.session with connected := true }
        else before.session := by
  induction remaining generalizing number before with
  | zero => exact ⟨[], .exhausted, .notice _ before.world, rfl, rfl⟩
  | succ remaining ih =>
      obtain ⟨attempt, between, does⟩ := exists_does remaining number before
      cases decides : attempt.verdict? with
      | some verdict =>
          obtain ⟨answer, leaves⟩ := does.settles verdict decides
          refine ⟨[attempt], ?_, ?_, ?_, ?_⟩
          · rw [answer]
            exact .settled does.proper decides
          · rw [leaves, deedsFrom, deedsFrom, List.append_nil]
            exact does.leads
          · exact does.replies_append []
          · rw [leaves, does.session, List.any_cons, List.any_nil, Bool.or_false]
      | none =>
          have onward := does.goesOn decides
          have same : between.session = before.session := by
            rw [does.session, Attempt.not_isWelcomed decides]
            rfl
          obtain ⟨others, row, leads, replies, session⟩ := ih (number + 1) between
          rw [same] at row leads replies session
          have answer : Act.answer (connectFrom (remaining + 1) number) before =
              Act.answer (connectFrom remaining (number + 1)) between := by
            rw [Act.answer, onward, ← Act.answer]
          have leaves := Act.leaves_of_eq onward
          refine ⟨attempt :: others, ?_, ?_, ?_, ?_⟩
          · rw [answer]
            exact .goesOn decides row
          · rw [leaves]
            exact does.leads.trans leads
          · rw [deedsFrom, does.replies_append, replies, List.map_cons]
          · rw [leaves, session, List.any_cons, Attempt.not_isWelcomed decides, Bool.false_or]

/-! ## The books of a row -/

namespace Row

variable {config : Config} {left : Nat} {attempts : List Attempt} {outcome : Except Error Bool}

theorem length_le (row : Row config left attempts outcome) : attempts.length ≤ left := by
  induction row with
  | exhausted => exact Nat.le_refl 0
  | goesOn undecided later ih => exact Nat.succ_le_succ ih
  | settled proper decides => exact Nat.succ_le_succ (Nat.zero_le _)

/-- Only the last attempt can settle the outcome. -/
theorem undecided_dropLast (row : Row config left attempts outcome) :
    ∀ attempt ∈ attempts.dropLast, attempt.verdict? = none := by
  induction row with
  | exhausted => simp
  | settled proper decides => simp
  | @goesOn left attempt others outcome undecided later ih =>
      intro earlier inside
      cases others with
      | nil => cases inside
      | cons next rest =>
          rcases List.mem_cons.mp inside with rfl | further
          · exact undecided
          · exact ih earlier further

/-- The robot is unreachable just if every allowed attempt is made and none settles the outcome. -/
theorem outcome_eq_false_iff (row : Row config left attempts outcome) :
    outcome = .ok false ↔
      attempts.length = left ∧ ∀ attempt ∈ attempts, attempt.verdict? = none := by
  induction row with
  | exhausted => simp
  | goesOn undecided later ih => simp [ih, undecided]
  | @settled left attempt outcome proper decides =>
      constructor
      · rintro rfl
        exact absurd decides attempt.verdict?_ne_false
      · rintro ⟨-, undecided⟩
        rw [undecided attempt List.mem_cons_self] at decides
        cases decides

/-- Any other outcome is that of an attempt. -/
theorem outcome_eq_iff (row : Row config left attempts outcome) {verdict : Except Error Bool}
    (decided : verdict ≠ .ok false) :
    outcome = verdict ↔ ∃ attempt ∈ attempts, attempt.verdict? = some verdict := by
  induction row with
  | exhausted => simp [decided.symm]
  | goesOn undecided later ih => simp [ih, undecided]
  | settled proper decides => simp [decides]

theorem outcome_eq_true_iff (row : Row config left attempts outcome) :
    outcome = .ok true ↔ ∃ tried, .welcomed tried none ∈ attempts := by
  rw [row.outcome_eq_iff (by simp)]
  constructor
  · rintro ⟨attempt, inside, decides⟩
    obtain ⟨tried, rfl⟩ := attempt.verdict?_eq_true_iff.mp decides
    exact ⟨tried, inside⟩
  · rintro ⟨tried, inside⟩
    exact ⟨_, inside, rfl⟩

/-- Every attempt whose call was answered is reported, and so is a reset at the end. -/
theorem events_deedsFrom (row : Row config left attempts outcome) (number : Nat) :
    (deedsFrom config number attempts).events =
      ((attempts.map Attempt.reply).filterMap Except.toOption).mapIdx
        (fun index reached => .connectAttempt (index + number) reached) ++
      resetReport outcome := by
  induction row generalizing number with
  | exhausted => rfl
  | @goesOn left attempt others outcome undecided later ih =>
      obtain ⟨missed, -⟩ := attempt.verdict?_eq_none_iff.mp undecided
      have numbers : ∀ index, index + (number + 1) = index + 1 + number := fun index => by omega
      rw [deedsFrom, Journal.events_append, Attempt.events_deeds, ih, undecided, missed,
        List.map_cons, missed]
      simp [Except.toOption, List.mapIdx_cons, numbers]
  | @settled left attempt outcome proper decides =>
      rw [deedsFrom, deedsFrom, List.append_nil, Attempt.events_deeds, decides, List.map_singleton]
      cases attempt.reply <;> simp [Except.toOption]

end Row

omit [Robot ρ] in
/-- No attempt settles the outcome just if all missed and no wait failed. -/
theorem attempts_undecided_iff (attempts : List Attempt) (most : Nat) :
    (attempts.length = most ∧ ∀ attempt ∈ attempts, attempt.verdict? = none) ↔
      attempts.map Attempt.reply = List.replicate most (.ok false) ∧
        ∀ error, .unheld error ∉ attempts := by
  simp only [List.eq_replicate_iff, List.length_map, List.forall_mem_map,
    Attempt.verdict?_eq_none_iff]
  constructor
  · rintro ⟨length, undecided⟩
    refine ⟨⟨length, fun attempt inside => (undecided attempt inside).1⟩, ?_⟩
    exact fun error inside => (undecided _ inside).2 error rfl
  · rintro ⟨⟨length, missed⟩, held⟩
    refine ⟨length, fun attempt inside => ⟨missed attempt inside, ?_⟩⟩
    rintro error rfl
    exact held error inside

/-- A request to connect makes at most as many attempts as configured, for every robot. It makes no
further one once the robot was reached or a call to connect failed. The answered ones are reported,
numbered from one on, and it gives up just if all of them came back and no wait failed after a red
LED that was lit. The red LED itself may fail. Once the robot was reached, the first failure of the
blue LED, the wait and the reset is the result, and without one the robot is connected. The session
takes notice just if the blue LED and the wait succeeded, even if the reset then fails. -/
theorem connect_bookkeeping (before : Desk ρ τ) :
    let config := before.session.config
    let most := config.connectAttempts.toNat
    let outcome := Act.answer connect before
    let after := Act.leaves connect before
    ∃ attempts : List Attempt,
      let gain := deedsFrom config 1 attempts
      let replies := Robot.replies before.world.robot gain
      World.Leads gain before.world after.world ∧
      Row config most attempts outcome ∧
      replies = attempts.map Attempt.reply ∧
      gain.calls.count .connect = replies.length ∧ replies.length ≤ most ∧
      (∀ reply ∈ replies.dropLast, reply = .ok false) ∧
      gain.events =
        (replies.filterMap Except.toOption).mapIdx
          (fun index reached => .connectAttempt (index + 1) reached) ++ resetReport outcome ∧
      (outcome = .ok false ↔
        replies = List.replicate most (.ok false) ∧ ∀ error, .unheld error ∉ attempts) ∧
      (outcome = .ok true ↔ ∃ tried, .welcomed tried none ∈ attempts) ∧
      (∀ error, outcome = .error error ↔
        ∃ attempt ∈ attempts, attempt.verdict? = some (.error error)) ∧
      after.session =
        if attempts.any Attempt.isWelcomed then { before.session with connected := true }
        else before.session := by
  intro config most outcome after
  obtain ⟨attempts, row, leads, replies, session⟩ := connectFrom_row most 1 before
  refine ⟨attempts, leads, row, replies, (Robot.length_replies ..).symm, ?_, ?_, ?_, ?_, ?_, ?_,
    session⟩
  · rw [replies, List.length_map]
    exact row.length_le
  · rw [replies, ← List.map_dropLast]
    intro reply inside
    obtain ⟨attempt, early, rfl⟩ := List.mem_map.mp inside
    exact (attempt.verdict?_eq_none_iff.mp (row.undecided_dropLast attempt early)).1
  · rw [replies]
    exact row.events_deedsFrom 1
  · rw [replies]
    exact row.outcome_eq_false_iff.trans (attempts_undecided_iff attempts most)
  · exact row.outcome_eq_true_iff
  · exact fun error => row.outcome_eq_iff (by simp)

end Session

end Rover
