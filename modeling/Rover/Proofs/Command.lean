import Rover.Command
import Rover.Proofs.Text.Trim

/-!
# Spellings of commands

An entry names a command just if both come down to the same letters once separators and case are
left out. Which texts name the same command follows from this, and so does what may be changed in an
entry.
-/

namespace Rover.Command

open Text

/-! ## Keys and names -/

/-- The key of a command is what its name comes down to. -/
theorem keys_eq :
    keys = vocabulary.map fun command =>
      (String.ofList (plain command.name.toList), command) := by
  decide +kernel

theorem ofSpelling?_eq_find? (spelling : List Char) :
    ofSpelling? spelling =
      vocabulary.find? fun command => plain command.name.toList = plain spelling := by
  rw [ofSpelling?, keys_eq, List.find?_map, Option.map_map]
  simp [Function.comp_def]

/-- No two names come down to the same letters. -/
theorem eq_of_plain_name : ∀ first ∈ vocabulary, ∀ second ∈ vocabulary,
    plain first.name.toList = plain second.name.toList → first = second := by
  decide +kernel

theorem ofSpelling?_eq_some_iff {spelling : List Char} {command : Command} :
    ofSpelling? spelling = some command ↔
      command ∈ vocabulary ∧ plain spelling = plain command.name.toList := by
  rw [ofSpelling?_eq_find?]
  constructor
  · intro found
    have same := List.find?_some found
    exact ⟨List.mem_of_find?_eq_some found, (of_decide_eq_true same).symm⟩
  · rintro ⟨listed, same⟩
    cases found : vocabulary.find? fun command =>
        decide (plain command.name.toList = plain spelling) with
    | none =>
        have other := List.find?_eq_none.mp found command listed
        exact absurd (decide_eq_true same.symm) other
    | some other =>
        have same' := List.find?_some found
        have listed' := List.mem_of_find?_eq_some found
        rw [eq_of_plain_name other listed' command listed ((of_decide_eq_true same').trans same)]

theorem ofEntry_eq_ok_iff {raw : String} {command : Command} :
    ofEntry raw = .ok command ↔
      command ∈ vocabulary ∧ plain (trim raw.toList) = plain command.name.toList := by
  rw [← ofSpelling?_eq_some_iff, ofEntry]
  cases ofSpelling? (trim raw.toList) with
  | none => exact iff_of_false (by rintro ⟨⟩) (by rintro ⟨⟩)
  | some other => exact ⟨fun named => congrArg some (Except.ok.inj named), fun named =>
      congrArg Except.ok (Option.some.inj named)⟩

/-- What names no command is given back without the blanks around it. -/
theorem ofEntry_eq_error {raw : String}
    (unknown : ∀ command ∈ vocabulary, plain (trim raw.toList) ≠ plain command.name.toList) :
    ofEntry raw = .error ⟨String.ofList (trim raw.toList)⟩ := by
  have unspelled : ofSpelling? (trim raw.toList) = none := by
    rw [Option.eq_none_iff_forall_ne_some]
    intro command named
    obtain ⟨listed, same⟩ := ofSpelling?_eq_some_iff.mp named
    exact unknown command listed same
  rw [ofEntry, unspelled]

/-! ## What may be changed in an entry -/

/-- The command of an entry, if it names one. -/
def named? (entry : List Char) : Option Command := (ofEntry (String.ofList entry)).toOption

theorem named?_eq (entry : List Char) : named? entry = ofSpelling? (trim entry) := by
  rw [named?, ofEntry, String.toList_ofList]
  cases ofSpelling? (trim entry) <;> rfl

theorem named?_congr {entry entry' : List Char} (same : plain (trim entry) = plain (trim entry')) :
    named? entry = named? entry' := by
  rw [named?_eq, named?_eq, ofSpelling?, ofSpelling?, same]

/-- Blanks around an entry make no difference. -/
theorem named?_padded {front back : List Char} (before : AllBlank front) (after : AllBlank back)
    (entry : List Char) : named? (front ++ entry ++ back) = named? entry :=
  named?_congr (congrArg plain (trim_padded before after entry))

theorem isSeparator_iff {char : Char} :
    isSeparator char = true ↔ char.toNat = 95 ∨ char.toNat = 45 ∨ char.toNat = 32 := by
  simp only [isSeparator, Bool.or_eq_true, decide_eq_true_eq, ← Char.toNat_inj, or_assoc]
  rfl

theorem isSeparator_toLower (char : Char) : isSeparator char.toLower = isSeparator char := by
  rw [Bool.eq_iff_iff, isSeparator_iff, isSeparator_iff, toNat_toLower]
  split <;> omega

theorem plain_map_toLower (spelling : List Char) :
    plain (spelling.map Char.toLower) = plain spelling := by
  have same : (fun char => !isSeparator char) ∘ Char.toLower = fun char => !isSeparator char :=
    funext fun char => congrArg not (isSeparator_toLower char)
  have twice : Char.toLower ∘ Char.toLower = Char.toLower := funext toLower_toLower
  rw [plain, List.filter_map, same, List.map_map, twice, plain]

/-- The case of letters makes no difference. -/
theorem named?_of_same_letters {entry entry' : List Char}
    (same : entry'.map Char.toLower = entry.map Char.toLower) : named? entry' = named? entry := by
  apply named?_congr
  rw [← plain_map_toLower, ← trim_map_toLower, same, trim_map_toLower, plain_map_toLower]

/-- The name of a command names it. -/
theorem named?_name : ∀ command ∈ vocabulary, named? command.name.toList = some command := by
  decide +kernel

/-! ## Separators -/

theorem plain_append (left right : List Char) :
    plain (left ++ right) = plain left ++ plain right := by
  simp [plain]

theorem plain_of_separators {chars : List Char}
    (separators : ∀ char ∈ chars, isSeparator char = true) : plain chars = [] := by
  simp only [plain, List.map_eq_nil_iff, List.filter_eq_nil_iff]
  intro char inside
  simp [separators char inside]

/-- Trimming changes no meaning where nothing but separators is taken off. -/
theorem plain_trim {spelling : List Char}
    (separators : ∀ front core back, spelling = front ++ core ++ back → AllBlank front →
      AllBlank back → ∀ char ∈ front ++ back, isSeparator char = true) :
    plain (trim spelling) = plain spelling := by
  obtain ⟨-, front, back, before, after, split⟩ := trim_spec spelling
  obtain ⟨early, late⟩ := List.forall_mem_append.mp (separators _ _ _ split before after)
  calc plain (trim spelling)
      = plain front ++ plain (trim spelling) ++ plain back := by
        rw [plain_of_separators early, plain_of_separators late, List.nil_append, List.append_nil]
    _ = plain spelling := by rw [← plain_append, ← plain_append, ← split]

/-- The second text has all of the first in its order, and nothing more but separators. -/
structure Loosens (spelling loose : List Char) : Prop where
  kept : spelling.Sublist loose
  added : loose.filter (fun char => !isSeparator char) =
    spelling.filter (fun char => !isSeparator char)

namespace Loosens

variable {spelling loose : List Char}

theorem plain_eq (loosens : Loosens spelling loose) : plain loose = plain spelling := by
  rw [plain, loosens.added, plain]

theorem reverse (loosens : Loosens spelling loose) : Loosens spelling.reverse loose.reverse where
  kept := loosens.kept.reverse
  added := by rw [List.filter_reverse, loosens.added, List.filter_reverse]

/-- No blank comes to stand at the start of a text but separators that were added there. -/
theorem separators_of_front {front rest : List Char} (loosens : Loosens spelling (front ++ rest))
    (solid : ∀ char ∈ spelling.head?, isBlank char = false) (blank : AllBlank front) :
    ∀ char ∈ front, isSeparator char = true := by
  obtain ⟨early, late, split, among, kept⟩ := List.sublist_append_iff.mp loosens.kept
  -- the first character that was there before is not among the blanks
  have empty : early = [] := by
    cases early with
    | nil => rfl
    | cons char early =>
        have first := solid char (by rw [split]; rfl)
        rw [blank char (among.subset List.mem_cons_self)] at first
        cases first
  rw [empty, List.nil_append] at split
  subst split
  have lengths := congrArg List.length loosens.added
  have fewer := (kept.filter fun char => !isSeparator char).length_le
  rw [List.filter_append, List.length_append] at lengths
  have empty : front.filter (fun char => !isSeparator char) = [] :=
    List.eq_nil_of_length_eq_zero (by omega)
  intro char inside
  simpa using List.filter_eq_nil_iff.mp empty char inside

end Loosens

/-- Further separators in an entry without blanks around it make no difference. -/
theorem named?_loosened {entry loose : List Char} (trimmed : Trimmed entry)
    (loosens : Loosens entry loose) : named? loose = named? entry := by
  apply named?_congr
  rw [trimmed.trim_eq, ← loosens.plain_eq]
  apply plain_trim
  rintro front core back rfl before after char inside
  rcases List.mem_append.mp inside with early | late
  · rw [List.append_assoc] at loosens
    exact loosens.separators_of_front trimmed.first before char early
  · have backwards := loosens.reverse
    rw [List.reverse_append] at backwards
    refine backwards.separators_of_front ?_ ?_ char (List.mem_reverse.mpr late)
    · rw [List.head?_reverse]
      exact trimmed.last
    · exact fun char inside => after char (List.mem_reverse.mp inside)

/-- Whatever is blank in an entry that names a command is a separator. -/
theorem isSeparator_of_isBlank {spelling : List Char} {command : Command}
    (listed : command ∈ vocabulary) (same : plain spelling = plain command.name.toList) :
    ∀ char ∈ spelling, isBlank char = true → isSeparator char = true := by
  have solid : (vocabulary.all fun command =>
      (plain command.name.toList).all fun char => !isBlank char) = true := by
    decide +kernel
  intro char inside blank
  by_contra other
  have kept : char.toLower ∈ plain spelling :=
    List.mem_map_of_mem (List.mem_filter.mpr ⟨inside, by simpa using other⟩)
  rw [same] at kept
  have contrary := List.all_eq_true.mp (List.all_eq_true.mp solid command listed) _ kept
  rw [isBlank_toLower, blank] at contrary
  cases contrary

/-- With fewer separators an entry that names a command names it still. -/
theorem named?_tightened {entry loose : List Char} {command : Command} (trimmed : Trimmed loose)
    (loosens : Loosens entry loose) (named : named? loose = some command) :
    named? entry = some command := by
  rw [named?_eq, trimmed.trim_eq, ofSpelling?_eq_some_iff] at named
  obtain ⟨listed, same⟩ := named
  have separators := isSeparator_of_isBlank listed same
  have meaning : plain (trim entry) = plain entry := by
    apply plain_trim
    rintro front core back rfl before after char inside
    have among : char ∈ front ++ core ++ back := by
      rcases List.mem_append.mp inside with early | late
      · exact List.mem_append_left _ (List.mem_append_left _ early)
      · exact List.mem_append_right _ late
    refine separators char (loosens.kept.subset among) ?_
    exact (List.mem_append.mp inside).elim (before char) (after char)
  rw [named?_eq, ofSpelling?_eq_some_iff, meaning, ← loosens.plain_eq]
  exact ⟨listed, same⟩

/-! ## The accepted entries -/

/-- An entry is trimmed of the blanks around it. It names a command just if the command is in the
vocabulary and both come down to the same letters, which is so for one command at most, and never
for the placeholder; otherwise the trimmed entry is given back. Blanks around the entry and the case
of its letters make no difference. In an entry without blanks around it further separators make
none, wherever they stand, and with fewer of them no command is lost or changed. -/
theorem ofEntry_names_by_letters (raw : String) :
    (Trimmed (trim raw.toList) ∧ ∃ front back, AllBlank front ∧ AllBlank back ∧
      raw.toList = front ++ trim raw.toList ++ back) ∧
    (∀ command, ofEntry raw = .ok command ↔
      command ∈ vocabulary ∧ plain (trim raw.toList) = plain command.name.toList) ∧
    ((∀ command ∈ vocabulary, plain (trim raw.toList) ≠ plain command.name.toList) →
      ofEntry raw = .error ⟨String.ofList (trim raw.toList)⟩) ∧
    ofEntry raw ≠ .ok .placeholder ∧
    (∀ first ∈ vocabulary, ∀ second ∈ vocabulary,
      plain (trim raw.toList) = plain first.name.toList →
      plain (trim raw.toList) = plain second.name.toList → first = second) ∧
    (∀ front back, AllBlank front → AllBlank back →
      named? (front ++ raw.toList ++ back) = named? raw.toList) ∧
    (∀ other : List Char, other.map Char.toLower = raw.toList.map Char.toLower →
      named? other = named? raw.toList) ∧
    (Trimmed raw.toList → ∀ loose, Loosens raw.toList loose →
      named? loose = named? raw.toList) ∧
    (Trimmed raw.toList → ∀ tight, Loosens tight raw.toList → ∀ command,
      named? raw.toList = some command → named? tight = some command) := by
  refine ⟨trim_spec raw.toList, fun command => ofEntry_eq_ok_iff, ofEntry_eq_error, ?_, ?_, ?_, ?_,
    ?_, ?_⟩
  · intro named
    have listed := (ofEntry_eq_ok_iff.mp named).1
    revert listed
    decide
  · intro first listed second listed' same same'
    exact eq_of_plain_name first listed second listed' (same.symm.trans same')
  · intro front back before after
    exact named?_padded before after raw.toList
  · intro other same
    exact named?_of_same_letters same
  · intro trimmed loose loosens
    exact named?_loosened trimmed loosens
  · intro trimmed tight loosens command named
    exact named?_tightened trimmed loosens named

/-- An entry with a separator names its command, and so it does without the separator. -/
theorem ofEntry_names_by_letters_turn_left :
    Trimmed "Turn_Left".toList ∧ Loosens "TurnLeft".toList "Turn_Left".toList ∧
      ofEntry "Turn_Left" = .ok .turnLeft ∧ named? "TurnLeft".toList = some .turnLeft := by
  obtain ⟨-, accepts, -, -, -, -, -, -, tightens⟩ := ofEntry_names_by_letters "Turn_Left"
  have trimmed : Trimmed "Turn_Left".toList := trim_eq_iff.mp (by decide)
  have loosens : Loosens "TurnLeft".toList "Turn_Left".toList := ⟨by decide, by decide⟩
  have named : ofEntry "Turn_Left" = .ok .turnLeft := (accepts .turnLeft).mpr (by decide +kernel)
  have same : named? "Turn_Left".toList = some .turnLeft := by
    rw [Command.named?, String.ofList_toList, named]
    rfl
  exact ⟨trimmed, loosens, named, tightens trimmed _ loosens .turnLeft same⟩

end Rover.Command
