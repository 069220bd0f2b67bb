import Rover.Program
import Rover.Proofs.Command
import Rover.Proofs.Text.Pieces

/-!
# Programs as texts

A text with commas is read entry by entry up to the first that says `done`, and it is a program just
if all entries up to there name commands. What is written with the names of commands, however they
are spaced, is read back as these commands.
-/

namespace Rover

namespace Program

/-- The texts of the entries before the first that says `done`. -/
def beforeDone (entries : List String) : List String :=
  entries.takeWhile fun entry => Command.ofEntry entry ≠ .ok .done

/-- The commands that entries name. -/
def named (entries : List String) : Program :=
  entries.filterMap fun entry => (Command.ofEntry entry).toOption

/-- Every entry names a command. -/
def Recognized (entries : List String) : Prop :=
  ∀ entry ∈ entries, ∃ command, Command.ofEntry entry = .ok command

theorem beforeDone_of_done {entry : String} (done : Command.ofEntry entry = .ok .done)
    (rest : List String) : beforeDone (entry :: rest) = [] := by
  simp [beforeDone, done]

theorem beforeDone_of_other {entry : String} (other : Command.ofEntry entry ≠ .ok .done)
    (rest : List String) : beforeDone (entry :: rest) = entry :: beforeDone rest := by
  simp [beforeDone, other]

namespace Builder

theorem enterAll_of_error {entry : String} {error : UnknownCommand} {builder : Builder}
    (opened : builder.closed = false) (unknown : Command.ofEntry entry = .error error)
    (rest : List String) : enterAll (entry :: rest) builder = .error (.unknown error) := by
  simp only [enterAll, enter, opened, unknown]
  rfl

theorem enterAll_of_done {entry : String} {builder : Builder} (opened : builder.closed = false)
    (done : Command.ofEntry entry = .ok .done) (rest : List String) :
    enterAll (entry :: rest) builder = .ok builder.commands := by
  simp only [enterAll, enter, opened, done, push]
  rfl

theorem enterAll_of_command {entry : String} {command : Command} {builder : Builder}
    (opened : builder.closed = false) (entered : Command.ofEntry entry = .ok command)
    (goesOn : command ≠ .done) (rest : List String) :
    enterAll (entry :: rest) builder =
      enterAll rest { builder with commands := builder.commands ++ [command] } := by
  simp only [enterAll, enter, opened, entered, push, goesOn]
  rfl

/-- With one more command a program is still open. -/
theorem closed_appended {builder : Builder} (opened : builder.closed = false) (command : Command) :
    Builder.closed { builder with commands := builder.commands ++ [command] } = false := opened

/-- The induction is on the entries, the builder being open. -/
theorem enterAll_eq_ok_iff {entries : List String} {builder : Builder} {program : Program}
    (opened : builder.closed = false) :
    enterAll entries builder = .ok program ↔
      Recognized (beforeDone entries) ∧
        program = builder.commands ++ named (beforeDone entries) := by
  induction entries generalizing builder with
  | nil => simp [enterAll, finish, Recognized, beforeDone, named, eq_comm]
  | cons entry rest ih =>
      cases entered : Command.ofEntry entry with
      | error error =>
          rw [enterAll_of_error opened entered, beforeDone_of_other (by simp [entered])]
          refine iff_of_false (by rintro ⟨⟩) ?_
          rintro ⟨recognized, -⟩
          obtain ⟨command, known⟩ := recognized entry List.mem_cons_self
          rw [entered] at known
          cases known
      | ok command =>
          by_cases done : command = .done
          · subst done
            rw [enterAll_of_done opened entered, beforeDone_of_done entered]
            simp [Recognized, named, eq_comm]
          · rw [enterAll_of_command opened entered done, ih (closed_appended opened command),
              beforeDone_of_other (by simp [entered, done])]
            simp [Recognized, named, entered, Except.toOption]

end Builder

theorem ofText_eq_ok_iff {text : String} {program : Program} :
    ofText text = .ok program ↔
      Recognized (beforeDone (entries text)) ∧ program = named (beforeDone (entries text)) :=
  Builder.enterAll_eq_ok_iff rfl

/-! ## Refused texts -/

/-- Why an entry names no command, if it names none. -/
def unknown? (entry : String) : Option UnknownCommand :=
  match Command.ofEntry entry with
  | .ok _ => none
  | .error unknown => some unknown

theorem unknown?_eq_none_iff {entry : String} :
    unknown? entry = none ↔ ∃ command, Command.ofEntry entry = .ok command := by
  rw [unknown?]
  cases Command.ofEntry entry <;> simp

theorem unknown?_eq_some_iff {entry : String} {unknown : UnknownCommand} :
    unknown? entry = some unknown ↔ Command.ofEntry entry = .error unknown := by
  rw [unknown?]
  cases Command.ofEntry entry <;> simp

/-- The induction is on the entries, the builder being open. -/
theorem Builder.enterAll_eq_error_iff {entries : List String} {builder : Builder}
    {error : ProgramError} (opened : builder.closed = false) :
    enterAll entries builder = .error error ↔
      ∃ unknown, (beforeDone entries).findSome? unknown? = some unknown ∧
        error = .unknown unknown := by
  induction entries generalizing builder with
  | nil => simp [enterAll, beforeDone]
  | cons entry rest ih =>
      cases entered : Command.ofEntry entry with
      | error unknown =>
          rw [enterAll_of_error opened entered, beforeDone_of_other (by simp [entered]),
            List.findSome?_cons, unknown?_eq_some_iff.mpr entered]
          simp [eq_comm]
      | ok command =>
          by_cases done : command = .done
          · subst done
            rw [enterAll_of_done opened entered, beforeDone_of_done entered]
            simp
          · rw [enterAll_of_command opened entered done, ih (closed_appended opened command),
              beforeDone_of_other (by simp [entered, done]), List.findSome?_cons,
              unknown?_eq_none_iff.mpr ⟨command, entered⟩]

/-- The entries of a text are what stands between its commas, without the blanks around it. -/
theorem trimmed_of_mem_entries {text entry : String} (inside : entry ∈ entries text) :
    Text.Trimmed entry.toList := by
  obtain ⟨row, kept, rfl⟩ := List.mem_map.mp inside
  obtain ⟨piece, -, rfl⟩ := List.mem_map.mp (List.mem_filter.mp kept).1
  rw [String.toList_ofList]
  exact (Text.trim_spec piece).1

/-- An entry of a text is given back as it is. -/
theorem unknown?_of_mem_entries {text entry : String} (inside : entry ∈ entries text)
    (unnamed : ∀ command, Command.ofEntry entry ≠ .ok command) :
    unknown? entry = some ⟨entry⟩ := by
  rw [unknown?_eq_some_iff, Command.ofEntry_eq_error, (trimmed_of_mem_entries inside).trim_eq,
    String.ofList_toList]
  intro command listed same
  exact unnamed command (Command.ofEntry_eq_ok_iff.mpr ⟨listed, same⟩)

theorem mem_of_beforeDone_eq {rows early late : List String} {entry : String}
    (split : beforeDone rows = early ++ entry :: late) : entry ∈ rows := by
  apply (List.takeWhile_sublist _).mem
  rw [← beforeDone, split]
  exact List.mem_append_right _ List.mem_cons_self

/-- A text is refused with its first entry that names no command, if none says `done` before. -/
theorem ofText_eq_error_iff {text : String} {error : ProgramError} :
    ofText text = .error error ↔
      ∃ early entry late, beforeDone (entries text) = early ++ entry :: late ∧
        Recognized early ∧ (∀ command, Command.ofEntry entry ≠ .ok command) ∧
        error = .unknown ⟨entry⟩ := by
  rw [ofText, Builder.enterAll_eq_error_iff rfl]
  simp only [List.findSome?_eq_some_iff]
  constructor
  · rintro ⟨unknown, ⟨early, entry, late, split, refused, recognized⟩, rfl⟩
    have unnamed : ∀ command, Command.ofEntry entry ≠ .ok command := by
      intro command named
      rw [unknown?_eq_none_iff.mpr ⟨command, named⟩] at refused
      cases refused
    rw [unknown?_of_mem_entries (mem_of_beforeDone_eq split) unnamed] at refused
    cases refused
    exact ⟨early, entry, late, split,
      fun entry among => unknown?_eq_none_iff.mp (recognized entry among), unnamed, rfl⟩
  · rintro ⟨early, entry, late, split, recognized, unnamed, rfl⟩
    exact ⟨⟨entry⟩, ⟨early, entry, late, split,
      unknown?_of_mem_entries (mem_of_beforeDone_eq split) unnamed,
      fun entry among => unknown?_eq_none_iff.mpr (recognized entry among)⟩, rfl⟩

/-! ## What is looked at -/

/-- Nothing but the entries before the first `done` is looked at. -/
theorem ofText_congr {text other : String}
    (same : beforeDone (entries other) = beforeDone (entries text)) :
    ofText other = ofText text := by
  cases outcome : ofText text with
  | ok program =>
      rw [ofText_eq_ok_iff] at outcome ⊢
      rwa [same]
  | error error =>
      rw [ofText_eq_error_iff] at outcome ⊢
      rwa [same]

theorem entries_append (first second : String) :
    entries (first ++ "," ++ second) = entries first ++ entries second := by
  have joined : (first ++ "," ++ second).toList = first.toList ++ ',' :: second.toList := by
    simp
  rw [entries, joined, Text.pieces_eq_splitOn, List.splitOn_append_cons_self]
  simp [entries, Text.pieces_eq_splitOn]

/-- Whatever is added after an entry that says `done` makes no difference. -/
theorem ofText_append_of_done {text : String}
    (closes : ∃ entry ∈ entries text, Command.ofEntry entry = .ok .done) (more : String) :
    ofText (text ++ "," ++ more) = ofText text := by
  apply ofText_congr
  rw [entries_append, beforeDone, List.takeWhile_append, if_neg]
  · rfl
  · intro whole
    obtain ⟨entry, inside, done⟩ := closes
    have all := List.takeWhile_eq_self_iff.mp ((List.takeWhile_sublist _).eq_of_length whole)
    simpa [done] using all entry inside

theorem mem_named_iff {entries : List String} {command : Command} :
    command ∈ named entries ↔ ∃ entry ∈ entries, Command.ofEntry entry = .ok command := by
  rw [named, List.mem_filterMap]
  refine exists_congr fun entry => and_congr_right fun _ => ?_
  cases Command.ofEntry entry <;> simp [Except.toOption]

/-- Neither the placeholder nor `done` gets into a program. -/
theorem not_mem_of_ofText {text : String} {program : Program} (read : ofText text = .ok program) :
    .placeholder ∉ program ∧ .done ∉ program := by
  obtain ⟨-, rfl⟩ := ofText_eq_ok_iff.mp read
  constructor
  · intro inside
    obtain ⟨entry, -, names⟩ := mem_named_iff.mp inside
    exact absurd (Command.ofEntry_eq_ok_iff.mp names).1 (by decide)
  · intro inside
    obtain ⟨entry, early, names⟩ := mem_named_iff.mp inside
    have other := List.mem_takeWhile_imp early
    simp [names] at other

/-! ## Written programs -/

/-- The parts of a text that lists commands: each command by its name, in any case of its letters
and with any blanks around it, and in between parts of blanks alone, which list nothing. -/
inductive Lists : List (List Char) → Program → Prop
  | nil : Lists [] []
  | blank {part : List Char} (blank : Text.AllBlank part) {parts : List (List Char)}
      {program : Program} (later : Lists parts program) : Lists (part :: parts) program
  | command {front word back : List Char} {command : Command} (before : Text.AllBlank front)
      (spelled : word.map Char.toLower = command.name.toList.map Char.toLower)
      (after : Text.AllBlank back) (listed : command ∈ Command.vocabulary)
      (goesOn : command ≠ .done) {parts : List (List Char)} {program : Program}
      (later : Lists parts program) :
      Lists ((front ++ word ++ back) :: parts) (command :: program)

/-- The entries among the parts of a text. -/
def entriesOf (parts : List (List Char)) : List String :=
  ((parts.map Text.trim).filter fun entry => !entry.isEmpty).map String.ofList

theorem entries_eq_entriesOf (text : String) :
    entries text = entriesOf (Text.pieces ',' text.toList) := rfl

theorem entriesOf_cons_blank {part : List Char} (blank : Text.AllBlank part)
    (parts : List (List Char)) : entriesOf (part :: parts) = entriesOf parts := by
  have empty : Text.trim part = [] := by
    rw [Text.trim, List.dropWhile_eq_nil_iff.mpr blank]
    rfl
  simp [entriesOf, empty]

theorem entriesOf_cons_of_named {part : List Char} {command : Command}
    (named : Command.named? part = some command) (parts : List (List Char)) :
    ∃ entry, Command.ofEntry entry = .ok command ∧
      entriesOf (part :: parts) = entry :: entriesOf parts := by
  rw [Command.named?_eq] at named
  have solid : Text.trim part ≠ [] := by
    intro empty
    rw [empty] at named
    cases named
  refine ⟨String.ofList (Text.trim part), ?_, ?_⟩
  · rw [Command.ofEntry_eq_ok_iff, String.toList_ofList, (Text.trim_spec part).1.trim_eq]
    exact Command.ofSpelling?_eq_some_iff.mp named
  · simp [entriesOf, solid]

namespace Lists

theorem enterAll {parts : List (List Char)} {program : Program} (lists : Lists parts program)
    {builder : Builder} (opened : builder.closed = false) :
    Builder.enterAll (entriesOf parts) builder = .ok (builder.commands ++ program) := by
  induction lists generalizing builder with
  | nil => simp [entriesOf, Builder.enterAll, Builder.finish]
  | blank blank _ ih =>
      rw [entriesOf_cons_blank blank]
      exact ih opened
  | @command front word back command before spelled after listed goesOn parts program _ ih =>
      have names : Command.named? (front ++ word ++ back) = some command := by
        rw [Command.named?_padded before after, Command.named?_of_same_letters spelled]
        exact Command.named?_name command listed
      obtain ⟨entry, entered, split⟩ := entriesOf_cons_of_named names parts
      rw [split, Builder.enterAll_of_command opened entered goesOn,
        ih (Builder.closed_appended opened command)]
      simp

/-- No comma stands in a part: it is no blank, and no name has one. -/
theorem not_mem_comma {parts : List (List Char)} {program : Program} (lists : Lists parts program) :
    ∀ part ∈ parts, ',' ∉ part := by
  have solid : Text.isBlank ',' = false := by decide
  have names : ∀ command ∈ Command.vocabulary,
      ',' ∉ command.name.toList.map Char.toLower := by
    decide +kernel
  have ofBlank {chars : List Char} (blank : Text.AllBlank chars) : ',' ∉ chars := by
    intro inside
    rw [blank _ inside] at solid
    cases solid
  induction lists with
  | nil => exact fun _ among => absurd among List.not_mem_nil
  | blank blank _ ih => exact List.forall_mem_cons.mpr ⟨ofBlank blank, ih⟩
  | @command front word back command before spelled after listed _ _ _ _ ih =>
      refine List.forall_mem_cons.mpr ⟨?_, ih⟩
      have inWord : ',' ∉ word := by
        intro inside
        have among := List.mem_map_of_mem (f := Char.toLower) inside
        rw [spelled] at among
        exact names command listed among
      simp only [List.mem_append, not_or]
      exact ⟨⟨ofBlank before, inWord⟩, ofBlank after⟩

end Lists

/-- A text that lists commands is read as these commands. -/
theorem ofText_of_lists {text : String} {parts : List (List Char)} {program : Program}
    (lists : Lists parts program) (joined : text.toList = [','].intercalate parts) :
    ofText text = .ok program := by
  have cut : entriesOf (Text.pieces ',' text.toList) = entriesOf parts := by
    rw [joined, Text.pieces_eq_splitOn]
    cases parts with
    | nil => rfl
    | cons part parts =>
        rw [List.splitOn_intercalate _ lists.not_mem_comma (List.cons_ne_nil part parts)]
  rw [ofText, entries_eq_entriesOf, cut]
  exact lists.enterAll rfl

theorem lists_names {program : Program}
    (listed : ∀ command ∈ program, command ∈ Command.vocabulary ∧ command ≠ .done) :
    Lists (program.map fun command => command.name.toList) program := by
  induction program with
  | nil => exact Lists.nil
  | cons command program ih =>
      have noBlanks : Text.AllBlank [] := by rintro _ ⟨⟩
      obtain ⟨⟨known, goesOn⟩, later⟩ := List.forall_mem_cons.mp listed
      simpa using Lists.command noBlanks rfl noBlanks known goesOn (ih later)

/-- What is written with the names of commands alone is read back. -/
theorem ofText_intercalate_names {program : Program}
    (listed : ∀ command ∈ program, command ∈ Command.vocabulary ∧ command ≠ .done) :
    ofText (String.intercalate "," (program.map Command.name)) = .ok program := by
  apply ofText_of_lists (lists_names listed)
  rw [String.toList_intercalate, List.map_map]
  rfl

/-! ## The meaning of a text -/

/-- A program that entries name one by one is the one that they all are recognized as. -/
theorem map_ofEntry_eq_iff {entries : List String} {program : Program} :
    entries.map Command.ofEntry = program.map .ok ↔
      Recognized entries ∧ program = named entries := by
  induction entries generalizing program with
  | nil => simp [Recognized, named, eq_comm]
  | cons entry rest ih =>
      cases entered : Command.ofEntry entry with
      | error error => cases program <;> simp [Recognized, entered]
      | ok command =>
          cases program with
          | nil => simp [named, entered, Except.toOption]
          | cons other program =>
              have known : Recognized (entry :: rest) ↔ Recognized rest := by
                simp [Recognized, entered]
              have first : named (entry :: rest) = command :: named rest := by
                simp [named, entered, Except.toOption]
              rw [List.map_cons, List.map_cons, entered, first, known, List.cons.injEq,
                List.cons.injEq, ih, Except.ok.injEq, and_left_comm, eq_comm (a := command)]

/-- The entries of a text are the pieces that its commas leave, trimmed, without the empty ones. The
text is a program just if every entry before the first that says `done` names a command, and it is
the program of these commands in their order; otherwise it is refused with the first of these
entries that names none. No program has the placeholder or `done` in it, and whatever comes after a
`done` is not looked at. Commands written by their names, in any case of the letters, with any
blanks around and any further commas, are read back as they are. -/
theorem ofText_means_entries (text : String) :
    ([','].intercalate (Text.pieces ',' text.toList) = text.toList ∧
      ∀ piece ∈ Text.pieces ',' text.toList, ',' ∉ piece) ∧
    entries text = (((Text.pieces ',' text.toList).map Text.trim).filter (· ≠ [])).map
      String.ofList ∧
    (∀ program, ofText text = .ok program ↔
      (beforeDone (entries text)).map Command.ofEntry = program.map .ok) ∧
    (∀ error, ofText text = .error error ↔
      ∃ early entry late, beforeDone (entries text) = early ++ entry :: late ∧
        Recognized early ∧ (∀ command, Command.ofEntry entry ≠ .ok command) ∧
        error = .unknown ⟨entry⟩) ∧
    (∀ program, ofText text = .ok program → .placeholder ∉ program ∧ .done ∉ program) ∧
    ((∃ entry ∈ entries text, Command.ofEntry entry = .ok .done) →
      ∀ more, ofText (text ++ "," ++ more) = ofText text) ∧
    (∀ parts program, Lists parts program → text.toList = [','].intercalate parts →
      ofText text = .ok program) := by
  refine ⟨⟨?_, fun piece => Text.not_mem_of_mem_pieces⟩, ?_, ?_, fun error => ofText_eq_error_iff,
    fun program => not_mem_of_ofText, ofText_append_of_done, fun parts program => ofText_of_lists⟩
  · rw [Text.pieces_eq_splitOn]
    exact List.intercalate_splitOn ','
  · rw [entries]
    congr 2
    funext piece
    cases piece <;> rfl
  · intro program
    rw [ofText_eq_ok_iff, map_ofEntry_eq_iff]

example : ofText " Move Forward ,,WAIT, done,?" = .ok [.moveForward, .wait] := by
  decide +kernel

end Program

end Rover
