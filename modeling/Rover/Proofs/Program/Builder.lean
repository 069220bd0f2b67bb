import Mathlib.Data.List.TakeWhile
import Rover.Program
import Rover.Proofs.Command

/-!
# How a program is entered

A builder goes one way: it is open until an input supplies `done`, and closed from then on. What it
answers, and what it holds at any point, is told by the inputs alone.
-/

namespace Rover.Program.Builder

/-- What a builder is given: the text of an operator, or a command as it is. -/
inductive Input where
  | entered (raw : String)
  | pushed (command : Command)
  deriving DecidableEq, Repr

namespace Input

/-- The command that an input supplies. A text that names none is left, without the blanks
around it. -/
def supplied : Input → Except String Command
  | .entered raw =>
    match Command.ofSpelling? (Text.trim raw.toList) with
    | some command => .ok command
    | none => .error (String.ofList (Text.trim raw.toList))
  | .pushed command => .ok command

/-- The command of an input, if it supplies one. -/
def command? (input : Input) : Option Command := input.supplied.toOption

/-- Whether an input supplies `done`. -/
def closes (input : Input) : Bool := input.command? = some .done

/-- What an open builder answers to an input other than `done`. -/
def answer (input : Input) : Except ProgramError Step :=
  match input.supplied with
  | .ok command => .ok (.appended command)
  | .error text => .error (.unknown ⟨text⟩)

theorem ofEntry_eq (raw : String) :
    Command.ofEntry raw = (Input.entered raw).supplied.mapError UnknownCommand.mk := by
  rw [Command.ofEntry, supplied]
  cases Command.ofSpelling? (Text.trim raw.toList) <;> rfl

/-- The placeholder is in no menu, so no text names it. -/
theorem command?_entered_ne_placeholder (raw : String) :
    (Input.entered raw).command? ≠ some .placeholder := by
  intro named
  rw [command?, supplied] at named
  cases found : Command.ofSpelling? (Text.trim raw.toList) with
  | none =>
      rw [found] at named
      cases named
  | some command =>
      rw [found] at named
      have listed := (Command.ofSpelling?_eq_some_iff.mp found).1
      rw [Option.some.inj named] at listed
      revert listed
      decide

end Input

/-- Gives an input to a builder. -/
def take (builder : Builder) : Input → Except ProgramError Step × Builder
  | .entered raw => builder.enter raw
  | .pushed command => builder.push command

/-- The builder after inputs in order. -/
def takeAll (inputs : List Input) (builder : Builder) : Builder :=
  inputs.foldl (fun builder input => (builder.take input).2) builder

/-- What a builder answers to inputs in order. -/
def answers : List Input → Builder → List (Except ProgramError Step)
  | [], _ => []
  | input :: rest, builder => (builder.take input).1 :: answers rest (builder.take input).2

/-- The command that an answer says was appended. -/
def appended? : Except ProgramError Step → Option Command
  | .ok (.appended command) => some command
  | .ok .closed | .error _ => none

/-- What is answered from the input on that closes the program. -/
def closing : List Input → List (Except ProgramError Step)
  | [] => []
  | _ :: late => .ok .closed :: late.map fun _ => .error .closed

/-! ## One input -/

theorem take_of_closed {builder : Builder} (closed : builder.closed = true) (input : Input) :
    builder.take input = (.error .closed, builder) := by
  cases input with
  | entered raw => simp [take, enter, closed]
  | pushed command => simp [take, push, closed]

/-- An open builder goes by what an input supplies, be it a text or a command. -/
theorem take_of_open {builder : Builder} (opened : builder.closed = false) (input : Input) :
    builder.take input =
      match input.supplied with
      | .ok command => builder.push command
      | .error text => (.error (.unknown ⟨text⟩), builder) := by
  cases input with
  | pushed command => rfl
  | entered raw =>
      simp only [take, enter, opened, Input.ofEntry_eq]
      cases (Input.entered raw).supplied <;> rfl

theorem take_of_closes {builder : Builder} (opened : builder.closed = false) {input : Input}
    (closes : input.closes = true) :
    builder.take input = (.ok .closed, { builder with closed := true }) := by
  have supplies : input.supplied = .ok .done := by
    rw [Input.closes, Input.command?, decide_eq_true_eq] at closes
    cases supplied : input.supplied with
    | error text =>
        rw [supplied] at closes
        cases closes
    | ok command =>
        rw [supplied] at closes
        exact congrArg Except.ok (Option.some.inj closes)
  rw [take_of_open opened, supplies]
  simp [push, opened]

/-- Any other input is answered by itself and adds its command, if it supplies one. -/
theorem take_of_not_closes {builder : Builder} (opened : builder.closed = false) {input : Input}
    (goesOn : input.closes = false) :
    builder.take input =
      (input.answer, { builder with commands := builder.commands ++ input.command?.toList }) := by
  rw [take_of_open opened, Input.answer, Input.command?]
  rw [Input.closes, Input.command?, decide_eq_false_iff_not] at goesOn
  cases supplied : input.supplied with
  | error text => simp [Except.toOption]
  | ok command =>
      rw [supplied] at goesOn
      have other : command ≠ .done := fun done => goesOn (congrArg some done)
      simp [push, opened, other, Except.toOption]

/-! ## All inputs -/

theorem answers_of_closed {builder : Builder} (closed : builder.closed = true)
    (inputs : List Input) :
    answers inputs builder = inputs.map (fun _ => .error .closed) ∧
      takeAll inputs builder = builder := by
  induction inputs with
  | nil => exact ⟨rfl, rfl⟩
  | cons input rest ih =>
      simp only [answers, takeAll, List.foldl_cons, take_of_closed closed, List.map_cons]
      exact ⟨congrArg _ ih.1, ih.2⟩

/-- The induction is on the inputs, up to the first that closes the program. -/
theorem answers_of_open {builder : Builder} (opened : builder.closed = false)
    (inputs : List Input) :
    let early := inputs.takeWhile (!·.closes)
    let late := inputs.dropWhile (!·.closes)
    answers inputs builder = early.map Input.answer ++ closing late ∧
      takeAll inputs builder =
        ⟨builder.commands ++ early.filterMap Input.command?, !late.isEmpty⟩ := by
  induction inputs generalizing builder with
  | nil =>
      refine ⟨rfl, ?_⟩
      simp [takeAll, ← opened]
  | cons input rest ih =>
      cases closes : input.closes with
      | true =>
          have shut : Builder.closed { builder with closed := true } = true := rfl
          obtain ⟨refused, same⟩ := answers_of_closed shut rest
          rw [takeAll] at same
          simp [answers, takeAll, take_of_closes opened closes, closes, closing, refused, same]
      | false =>
          have still : Builder.closed
              { builder with commands := builder.commands ++ input.command?.toList } = false :=
            opened
          have further := ih still
          rw [takeAll] at further
          obtain ⟨answered, held⟩ := further
          have shown : (input :: rest).takeWhile (!·.closes) =
              input :: rest.takeWhile (!·.closes) := by simp [closes]
          have left : (input :: rest).dropWhile (!·.closes) = rest.dropWhile (!·.closes) := by
            simp [closes]
          simp only [answers, takeAll, List.foldl_cons, take_of_not_closes opened closes, shown,
            left, answered, held, List.map_cons, List.cons_append, true_and]
          cases command : input.command? <;> simp [command]

theorem filterMap_appended_closing (inputs : List Input) :
    (closing inputs).filterMap appended? = [] := by
  cases inputs with
  | nil => rfl
  | cons input late =>
      rw [closing, List.filterMap_cons_none rfl, List.filterMap_map]
      exact List.filterMap_eq_nil_iff.mpr fun _ _ => rfl

theorem appended?_answer (input : Input) : appended? input.answer = input.command? := by
  rw [Input.answer, Input.command?]
  cases input.supplied <;> rfl

/-- Whatever is entered and pushed, in any order, the first input that supplies `done` divides the
inputs. Every earlier one is answered by itself: its command is appended, or its text is unknown
and nothing changes. That one closes the program, and every later one is refused and changes
nothing. The program holds the appended commands in their order, `done` is never among them, and
the placeholder only if it was pushed. -/
theorem takes_until_done (inputs : List Input) :
    let early := inputs.takeWhile (!·.closes)
    let late := inputs.dropWhile (!·.closes)
    let builder := takeAll inputs .empty
    answers inputs .empty = early.map Input.answer ++ closing late ∧
    builder.commands = early.filterMap Input.command? ∧
    (builder.closed = true ↔ ∃ input ∈ inputs, input.closes = true) ∧
    builder.finish = (answers inputs .empty).filterMap appended? ∧
    .done ∉ builder.finish ∧
    (.placeholder ∈ builder.finish → .pushed .placeholder ∈ inputs) := by
  intro early late builder
  obtain ⟨answered, held⟩ := answers_of_open (show Builder.empty.closed = false from rfl) inputs
  have commands : builder.commands = early.filterMap Input.command? := by
    rw [show builder = _ from held]
    rfl
  have appended : (answers inputs .empty).filterMap appended? = early.filterMap Input.command? := by
    rw [answered, List.filterMap_append, filterMap_appended_closing, List.append_nil,
      List.filterMap_map]
    exact congrArg (List.filterMap · early) (funext appended?_answer)
  refine ⟨answered, commands, ?_, commands.trans appended.symm, ?_, ?_⟩
  · rw [show builder = _ from held]
    simp [List.dropWhile_eq_nil_iff]
  · rw [finish, commands]
    intro inside
    obtain ⟨input, among, supplies⟩ := List.mem_filterMap.mp inside
    have goesOn := List.mem_takeWhile_imp among
    simp [Input.closes, supplies] at goesOn
  · rw [finish, commands]
    intro inside
    obtain ⟨input, among, supplies⟩ := List.mem_filterMap.mp inside
    have given := (List.takeWhile_sublist _).mem among
    cases input with
    | entered raw => exact absurd supplies (Input.command?_entered_ne_placeholder raw)
    | pushed command =>
        cases Option.some.inj supplies
        exact given

end Rover.Program.Builder
