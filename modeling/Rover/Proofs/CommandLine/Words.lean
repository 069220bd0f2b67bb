import Rover.CommandLine.Arguments

/-!
# The words of a command line

The words are read from the left, one option at a time. What an option says is in its own word or,
if its value stands apart, in two of them, and it is added to what the earlier ones said. So what
one option keeps is kept by a whole command line.
-/

namespace Rover.CommandLine

/-- Every value that was given is one that its option allows. -/
def Arguments.Allowed (arguments : Arguments) : Prop :=
  ∀ setting value, (setting, value) ∈ arguments.given → setting.allows value = true

namespace Arguments

theorem allowed_of_add {before after : Arguments} {setting : Setting} {value : String}
    (allowed : before.Allowed) (added : before.add setting value = some after) :
    after.Allowed := by
  rw [add] at added
  split at added
  next => cases added
  next fits =>
    rw [← Option.some.inj added]
    intro setting' value' inside
    rcases List.mem_append.mp inside with earlier | last
    · exact allowed setting' value' earlier
    · cases List.mem_singleton.mp last
      simpa using fun refused : setting.allows value = false => fits (by simp [refused])

theorem allowed_of_addRealtime {before after : Arguments} (allowed : before.Allowed)
    (added : before.addRealtime = some after) : after.Allowed := by
  rw [addRealtime] at added
  split at added
  next => cases added
  next =>
    rw [← Option.some.inj added]
    exact allowed

/-- No other kind of monitor gets past the arguments. -/
theorem Allowed.monitor_cases {arguments : Arguments} (allowed : arguments.Allowed)
    {kind : String} (asked : arguments.value? .monitor = some kind) :
    kind = "light" ∨ kind = "temperature" := by
  obtain ⟨⟨setting, value⟩, found, rfl⟩ := Option.map_eq_some_iff.mp asked
  have named : setting = .monitor := by simpa using List.find?_some found
  have fits := allowed setting value (List.mem_of_find?_eq_some found)
  subst named
  simpa [Setting.allows] using fits

/-- The option in front of the words is understood: the arguments that it makes of those before,
and the words that it leaves. -/
inductive Reads (before : Arguments) : List String → Arguments → List String → Prop
  | flag {word : String} {rest : List String} {after : Arguments}
      (shaped : Word.ofString word = .long "realtime".toList none)
      (added : before.addRealtime = some after) : Reads before (word :: rest) after rest
  | apart {word value : String} {name : List Char} {setting : Setting} {rest : List String}
      {after : Arguments} (shaped : Word.ofString word = .long name none)
      (named : Setting.ofName? name = some setting)
      (bare : setting.takesDashes = true ∨ Word.ofString value = .plain)
      (added : before.add setting value = some after) :
      Reads before (word :: value :: rest) after rest
  | attached {word value : String} {name : List Char} {setting : Setting} {rest : List String}
      {after : Arguments} (shaped : Word.ofString word = .long name (some value))
      (named : Setting.ofName? name = some setting)
      (added : before.add setting value = some after) : Reads before (word :: rest) after rest

namespace Reads

variable {before after : Arguments} {words left : List String}

theorem length_lt (reads : before.Reads words after left) : left.length < words.length := by
  cases reads with
  | flag | attached => exact Nat.lt_succ_self _
  | apart => exact Nat.lt_succ_of_lt (Nat.lt_succ_self _)

theorem allowed (reads : before.Reads words after left) (allowed : before.Allowed) :
    after.Allowed := by
  cases reads with
  | flag shaped added => exact allowed_of_addRealtime allowed added
  | apart shaped named bare added => exact allowed_of_add allowed added
  | attached shaped named added => exact allowed_of_add allowed added

end Reads

end Arguments

namespace Request

variable {word : String} {rest : List String} {before arguments : Arguments}

/-- An option that is a word of its own: the flag, or one whose value is the next word. -/
theorem reads_of_bare {name : List Char} (shaped : Word.ofString word = .long name none)
    (parsed : parseFrom (word :: rest) before = .run arguments) :
    ∃ after left, before.Reads (word :: rest) after left ∧
      parseFrom left after = .run arguments := by
  rw [parseFrom, shaped] at parsed
  dsimp only at parsed
  split at parsed
  next => cases parsed
  next =>
    split at parsed
    next => cases parsed
    next =>
      split at parsed
      next realtime =>
        subst realtime
        cases added : before.addRealtime with
        | none =>
            rw [added] at parsed
            cases parsed
        | some after =>
            rw [added] at parsed
            exact ⟨after, rest, .flag shaped added, parsed⟩
      next =>
        split at parsed
        next setting value left named =>
          split at parsed
          next bare =>
            cases added : before.add setting value with
            | none =>
                rw [added] at parsed
                cases parsed
            | some after =>
                rw [added] at parsed
                exact ⟨after, left, .apart shaped named (by simpa using bare) added, parsed⟩
          next => cases parsed
        next => cases parsed

/-- An option that has its value in the same word. -/
theorem reads_of_attached {name : List Char} {value : String}
    (shaped : Word.ofString word = .long name (some value))
    (parsed : parseFrom (word :: rest) before = .run arguments) :
    ∃ after left, before.Reads (word :: rest) after left ∧
      parseFrom left after = .run arguments := by
  rw [parseFrom, shaped] at parsed
  dsimp only at parsed
  split at parsed
  next setting named =>
    cases added : before.add setting value with
    | none =>
        rw [added] at parsed
        cases parsed
    | some after =>
        rw [added] at parsed
        exact ⟨after, rest, .attached shaped named added, parsed⟩
  next => cases parsed

/-- A run goes on from the word in front of the others by one option, unless it is a last
separator. -/
theorem reads_of_parseFrom (parsed : parseFrom (word :: rest) before = .run arguments) :
    arguments = before ∨ ∃ after left, before.Reads (word :: rest) after left ∧
      parseFrom left after = .run arguments := by
  cases shaped : Word.ofString word with
  | plain =>
      rw [parseFrom, shaped] at parsed
      cases parsed
  | separator =>
      rw [parseFrom, shaped] at parsed
      dsimp only at parsed
      split at parsed
      next => exact .inl (Request.run.inj parsed).symm
      next => cases parsed
  | short letter =>
      rw [parseFrom, shaped] at parsed
      dsimp only at parsed
      split at parsed
      next => cases parsed
      next => split at parsed <;> cases parsed
  | long name value? =>
      cases value? with
      | none => exact .inr (reads_of_bare shaped parsed)
      | some value => exact .inr (reads_of_attached shaped parsed)

/-- The induction is on the words that remain, which each option makes fewer. -/
theorem allowed_of_parseFrom (words : List String) {before : Arguments}
    (allowed : before.Allowed) (parsed : parseFrom words before = .run arguments) :
    arguments.Allowed := by
  match words with
  | [] =>
      rw [parseFrom] at parsed
      cases parsed
      exact allowed
  | word :: rest =>
      rcases reads_of_parseFrom parsed with rfl | ⟨after, left, reads, further⟩
      · exact allowed
      · exact allowed_of_parseFrom left (reads.allowed allowed) further
termination_by words.length
decreasing_by exact reads.length_lt

theorem allowed_of_parse {words : List String} (parsed : parse words = .run arguments) :
    arguments.Allowed :=
  allowed_of_parseFrom words (fun _ _ inside => absurd inside List.not_mem_nil) parsed

end Request

end Rover.CommandLine
