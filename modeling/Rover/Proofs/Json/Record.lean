import Rover.Json.Decode
import Rover.Json.Printer
import Rover.Proofs.Json.Grammar

/-!
# Written records read back

A record of plain names and numbers reads back as the object of these members, on one line or with
one field to a line. The two layouts differ in their blanks only, so the text of a record is put
together here from its blanks, and that it is a text of the grammar is shown once.
-/

namespace Rover.Json

/-! ## Names -/

/-- All characters of the name stand for themselves in a string. -/
def Plain (name : List Char) : Prop :=
  ∀ char ∈ name, ¬ char.toNat < 0x20 ∧ char ≠ '"' ∧ char ≠ '\\'

instance (name : List Char) : Decidable (Plain name) := List.decidableBAll _ name

theorem Plain.placesText {name : List Char} (plain : Plain name) :
    PlacesText (name.map Place.char) name := by
  induction name with
  | nil => exact .nil
  | cons char name ih =>
      obtain ⟨⟨shown, quote, escape⟩, plain'⟩ := List.forall_mem_cons.mp plain
      exact .cons (.char (Nat.not_lt.mp shown) quote escape) (ih plain')

theorem textOfPlaces_map (name : List Char) : textOfPlaces (name.map Place.char) = some name := by
  induction name with
  | nil => rfl
  | cons char name ih => rw [List.map_cons, textOfPlaces, ih, Option.map_some]

/-! ## Members -/

/-- The blanks of a layout of records: before each name, before each value and at the end. -/
structure Spacing where
  name : List Char
  value : List Char
  close : List Char
  name_blank : AllBlank name
  value_blank : AllBlank value
  close_blank : AllBlank close

/-- A name with its number. -/
abbrev Entry := String × Numeral

/-- An entry that the reader can read: a plain name, and rows of digits as the grammar asks. -/
def Entry.WF (entry : Entry) : Prop := Plain entry.1.toList ∧ entry.2.WF

/-- The member that an entry is read as. -/
def Entry.member (entry : Entry) : Option (List Char) × Value :=
  (some entry.1.toList, .number entry.2)

namespace Spacing

/-- The text of one entry. -/
def entryText (spacing : Spacing) (entry : Entry) : List Char :=
  spacing.name ++ '"' :: (entry.1.toList ++ '"' :: ':' :: (spacing.value ++ entry.2.text))

/-- The text of a record from its first name to its closing brace. -/
def membersText (spacing : Spacing) : Entry → List Entry → List Char
  | entry, [] => spacing.entryText entry ++ (spacing.close ++ ['\x7d'])
  | entry, next :: more => spacing.entryText entry ++ ',' :: spacing.membersText next more

variable (spacing : Spacing)

/-- The members of a record are written as the grammar asks, up to the closing brace. -/
theorem written_membersText {first : Entry} {more : List Entry}
    (valid : ∀ entry ∈ first :: more, entry.WF) :
    ∃ chars, spacing.membersText first more = chars ++ ['\x7d'] ∧
      Written (.members ((first :: more).map Entry.member)) chars := by
  have key := fun entry (valid : Entry.WF entry) => valid.1.placesText
  have number := fun (entry : Entry) (valid : entry.WF) =>
    Written.number valid.2 entry.2.writtenAs_text
  have noBlanks : AllBlank [] := List.forall_mem_nil _
  induction more generalizing first with
  | nil =>
      have valid := valid first List.mem_cons_self
      have member := Written.lastMember spacing.name_blank (key first valid) noBlanks
        spacing.value_blank (number first valid) spacing.close_blank
      rw [textOfPlaces_map] at member
      refine ⟨_, ?_, member⟩
      simp [membersText, entryText, nameText]
  | cons next more ih =>
      obtain ⟨head, tail⟩ := List.forall_mem_cons.mp valid
      obtain ⟨chars, text, shown⟩ := ih tail
      have member := Written.member spacing.name_blank (key first head) noBlanks spacing.value_blank
        (number first head) noBlanks shown
      rw [textOfPlaces_map] at member
      refine ⟨_, ?_, member⟩
      simp [membersText, entryText, nameText, text]

/-- The text of a record is one of the object of its members. -/
theorem textOf_record {first : Entry} {more : List Entry}
    (valid : ∀ entry ∈ first :: more, entry.WF) :
    TextOf (.object ((first :: more).map Entry.member))
      ('\x7b' :: spacing.membersText first more) := by
  obtain ⟨chars, text, shown⟩ := spacing.written_membersText valid
  have noBlanks : AllBlank [] := List.forall_mem_nil _
  refine ⟨[], _, [], noBlanks, .object shown, noBlanks, ?_⟩
  rw [List.nil_append, List.append_nil, text]

/-! ## The two layouts -/

theorem membersText_eq (first : Entry) (more : List Entry) :
    spacing.membersText first more =
      [','].intercalate ((first :: more).map spacing.entryText) ++ (spacing.close ++ ['\x7d']) := by
  induction more generalizing first with
  | nil => rw [List.map_singleton, List.intercalate_singleton, membersText]
  | cons next more ih =>
      rw [List.map_cons, List.map_cons, List.intercalate_cons_cons, ← List.map_cons, membersText,
        ih, List.append_assoc, List.append_assoc, List.singleton_append]

/-- One line, without blanks. -/
def oneLine : Spacing where
  name := []
  value := []
  close := []
  name_blank := by decide
  value_blank := by decide
  close_blank := by decide

/-- One field to a line, set in by two blanks. -/
def lines : Spacing where
  name := ['\n', ' ', ' ']
  value := [' ']
  close := ['\n']
  name_blank := by decide
  value_blank := by decide
  close_blank := by decide

end Spacing

/-- The fields of a record as they are given to the printer. -/
def fieldsOf (entries : List Entry) : List (String × String) :=
  entries.map fun entry => (entry.1, String.ofList entry.2.text)

/-- What stands before every row of a text may as well end the separator before it. -/
theorem intercalate_lead {α : Type} (separator lead first : List α) (more : List (List α)) :
    lead ++ (separator ++ lead).intercalate (first :: more) =
      separator.intercalate ((first :: more).map (lead ++ ·)) := by
  induction more generalizing first with
  | nil => rw [List.map_singleton, List.intercalate_singleton, List.intercalate_singleton]
  | cons next more ih =>
      rw [List.map_cons, List.map_cons, List.intercalate_cons_cons, List.intercalate_cons_cons,
        ← List.map_cons, ← ih]
      simp only [List.append_assoc]

theorem toList_compact (first : Entry) (more : List Entry) :
    (compact (fieldsOf (first :: more))).toList =
      '\x7b' :: Spacing.oneLine.membersText first more := by
  have rows : (fieldsOf (first :: more)).map
      (fun field => (quoted field.1 ++ ":" ++ field.2).toList) =
        (first :: more).map Spacing.oneLine.entryText := by
    rw [fieldsOf, List.map_map]
    apply List.map_congr_left
    intro entry _
    simp [quoted, Spacing.entryText, Spacing.oneLine]
  rw [Spacing.membersText_eq, ← rows]
  simp [compact, Spacing.oneLine, Function.comp_def]

theorem toList_spread (first : Entry) (more : List Entry) :
    (spread (fieldsOf (first :: more))).toList =
      '\x7b' :: Spacing.lines.membersText first more := by
  let row (entry : Entry) : List Char :=
    ("  " ++ quoted entry.1 ++ ": " ++ String.ofList entry.2.text).toList
  have rows : ((first :: more).map row).map (['\n'] ++ ·) =
      (first :: more).map Spacing.lines.entryText := by
    rw [List.map_map]
    apply List.map_congr_left
    intro entry _
    simp [row, quoted, Spacing.entryText, Spacing.lines]
  have joined := intercalate_lead [','] ['\n'] (row first) (more.map row)
  rw [← List.map_cons, rows] at joined
  have text : (spread (fieldsOf (first :: more))).toList =
      ['\x7b', '\n'] ++ [',', '\n'].intercalate ((first :: more).map row) ++ ['\n', '\x7d'] := by
    rw [spread, String.toList_append, String.toList_append, String.toList_intercalate, fieldsOf,
      List.map_map, List.map_map]
    rfl
  rw [Spacing.membersText_eq, ← joined, text, List.append_assoc, List.append_assoc]
  rfl

/-- Both texts of a record of readable entries, one at least, are texts of its object. -/
theorem textOf_fieldsOf {entries : List Entry} (nonempty : entries ≠ [])
    (valid : ∀ entry ∈ entries, entry.WF) :
    TextOf (.object (entries.map Entry.member)) (compact (fieldsOf entries)).toList ∧
      TextOf (.object (entries.map Entry.member)) (spread (fieldsOf entries)).toList := by
  cases entries with
  | nil => exact absurd rfl nonempty
  | cons first more =>
      rw [toList_compact, toList_spread]
      exact ⟨Spacing.oneLine.textOf_record valid, Spacing.lines.textOf_record valid⟩

/-- A record of readable entries, one at least, reads back from both of its texts. -/
theorem read?_fieldsOf {entries : List Entry} (nonempty : entries ≠ [])
    (valid : ∀ entry ∈ entries, entry.WF) :
    read? (compact (fieldsOf entries)).toList = some (.object (entries.map Entry.member)) ∧
      read? (spread (fieldsOf entries)).toList = some (.object (entries.map Entry.member)) := by
  obtain ⟨compact, spread⟩ := textOf_fieldsOf nonempty valid
  exact ⟨read?_eq_some compact, read?_eq_some spread⟩

/-! ## Members of a record -/

theorem filter_name {entries : List Entry} {name : String} {numeral : Numeral}
    (distinct : (entries.map Prod.fst).Nodup) (among : (name, numeral) ∈ entries) :
    entries.filter (fun entry => entry.1 = name) = [(name, numeral)] := by
  induction entries with
  | nil => cases among
  | cons entry entries ih =>
      obtain ⟨fresh, distinct⟩ := List.nodup_cons.mp distinct
      rcases List.mem_cons.mp among with rfl | among
      · have empty : entries.filter (fun entry => entry.1 = name) = [] := by
          rw [List.filter_eq_nil_iff]
          intro entry other same
          exact fresh (List.mem_map.mpr ⟨entry, other, of_decide_eq_true same⟩)
        rw [List.filter_cons_of_pos (by simp), empty]
      · have different : ¬ entry.1 = name := by
          intro same
          exact fresh (List.mem_map.mpr ⟨(name, numeral), among, same.symm⟩)
        rw [List.filter_cons_of_neg (by simpa using different), ih distinct among]

/-- In a record without repeated names the member of a name is found. -/
theorem member_map {α : Type} {entries : List Entry} {name : String} {numeral : Numeral}
    (decoder : Decoder α) (fallback : Option α) (distinct : (entries.map Prod.fst).Nodup)
    (among : (name, numeral) ∈ entries) :
    member decoder fallback name (entries.map Entry.member) = decoder (.number numeral) := by
  have named : (fun candidate => decide (candidate.1 = some name.toList)) ∘ Entry.member =
      fun entry => decide (entry.1 = name) := by
    funext entry
    simp [Entry.member, String.toList_inj]
  rw [member, List.filter_map, named, filter_name distinct among]
  rfl

/-- Where a name occurs once among known members and in no other one, its member is found, in
whatever order they all stand. -/
theorem member_of_perm {α : Type} {members known others : List (Option (List Char) × Value)}
    {name : String} {value : Value} (decoder : Decoder α) (fallback : Option α)
    (order : members.Perm (known ++ others))
    (only : known.filter (fun candidate => candidate.1 = some name.toList) =
      [(some name.toList, value)])
    (absent : ∀ candidate ∈ others, candidate.1 ≠ some name.toList) :
    member decoder fallback name members = decoder value := by
  have empty : others.filter (fun candidate => candidate.1 = some name.toList) = [] := by
    rw [List.filter_eq_nil_iff]
    exact fun candidate inside => by simpa using absent candidate inside
  have found := order.filter fun candidate => decide (candidate.1 = some name.toList)
  rw [List.filter_append, only, empty, List.append_nil, List.perm_singleton] at found
  rw [member, found]

end Rover.Json
