import Mathlib.Data.List.DropRight
import Rover.Proofs.Json.Numeral

/-!
# The texts of a value

The grammar of the data format, and its reader. A text that the grammar gives to a value is read as
this value, whatever blanks stand between its parts and however deep it is nested.
-/

namespace Rover.Json

/-! ## Blanks -/

/-- A row that consists of blanks. -/
def AllBlank (gap : List Char) : Prop := ∀ char ∈ gap, isBlank char = true

instance (gap : List Char) : Decidable (AllBlank gap) := List.decidableBAll _ gap

theorem skipBlanks_append {gap : List Char} (blank : AllBlank gap) (rest : List Char) :
    skipBlanks (gap ++ rest) = skipBlanks rest :=
  List.dropWhile_append_of_pos blank

theorem skipBlanks_cons {char : Char} (other : isBlank char = false) (rest : List Char) :
    skipBlanks (char :: rest) = char :: rest := by
  rw [skipBlanks, List.dropWhile_cons_of_neg]
  rw [other]
  exact Bool.false_ne_true

theorem skipBlanks_skipBlanks (chars : List Char) :
    skipBlanks (skipBlanks chars) = skipBlanks chars :=
  List.dropWhile_idempotent _ _

theorem continuesNumeral_of_isBlank {char : Char} (blank : isBlank char = true) :
    continuesNumeral char = false := by
  simp only [isBlank, Bool.or_eq_true, decide_eq_true_eq] at blank
  rcases blank with ((rfl | rfl) | rfl) | rfl <;> rfl

theorem Delimited.of_blank {gap rest : List Char} (blank : AllBlank gap)
    (delimited : Delimited rest) : Delimited (gap ++ rest) := by
  cases gap with
  | nil => exact delimited
  | cons char gap =>
      rintro _ ⟨⟩
      exact continuesNumeral_of_isBlank (blank char List.mem_cons_self)

/-! ## Strings -/

/-- The text of one place of a string: a character that stands for itself, an escape of one letter,
or a code unit in four hexadecimal digits. -/
inductive PlaceText : Place → List Char → Prop where
  | char {char : Char} (shown : 0x20 ≤ char.toNat) (quote : char ≠ '"') (escape : char ≠ '\\') :
      PlaceText (.char char) [char]
  | letter {letter char : Char} (known : escaped? letter = some char) :
      PlaceText (.char char) ['\\', letter]
  | unit {first second third fourth : Char} {value : Nat}
      (known : codeUnit? first second third fourth = some value) :
      PlaceText (.unit value) ['\\', 'u', first, second, third, fourth]

/-- The text of a row of places, without the quotes. -/
inductive PlacesText : List Place → List Char → Prop where
  | nil : PlacesText [] []
  | cons {place : Place} {places : List Place} {first more : List Char}
      (head : PlaceText place first) (tail : PlacesText places more) :
      PlacesText (place :: places) (first ++ more)

theorem PlaceText.readPlaces_append {place : Place} {chars : List Char}
    (shown : PlaceText place chars) (rest : List Char) :
    readPlaces (chars ++ rest) =
      (readPlaces rest).map fun (places, rest) => (place :: places, rest) := by
  cases shown with
  | char shown quote escape =>
      rw [List.singleton_append, readPlaces, if_neg (not_or_intro (Nat.not_lt.mpr shown) escape)]
      · cases readPlaces rest <;> rfl
      · exact quote
      · exact fun _ _ _ _ _ same => absurd same escape
      · exact fun _ _ same => absurd same escape
  | letter known =>
      rw [List.cons_append, List.cons_append, List.nil_append, readPlaces, known]
      · cases readPlaces rest <;> rfl
      · rintro _ _ _ _ _ rfl
        cases known
  | unit known =>
      simp only [List.cons_append, List.nil_append]
      rw [readPlaces, known]
      cases readPlaces rest <;> rfl

/-- The induction is on the places, one of which is read after the other. -/
theorem PlacesText.readString_append {places : List Place} {chars : List Char}
    (shown : PlacesText places chars) (rest : List Char) :
    readString (chars ++ '"' :: rest) = some (textOfPlaces places, rest) := by
  have read : readPlaces (chars ++ '"' :: rest) = some (places, rest) := by
    induction shown with
    | nil => rw [List.nil_append, readPlaces]
    | cons head tail ih =>
        rw [List.append_assoc, head.readPlaces_append, ih, Option.map_some]
  rw [readString, read, Option.map_some]

/-! ## Values -/

/-- What a text of the grammar is a text of: a value, or the elements of an array or the members of
an object, one at least. -/
inductive Item where
  | value (value : Value)
  | elements (elements : List Value)
  | members (members : List (Option (List Char) × Value))

/-- The text of a name with the blanks after it and its colon. -/
def nameText (key colon : List Char) : List Char := '"' :: (key ++ '"' :: (colon ++ [':']))

/-- The grammar: the texts of an item. Blanks may stand around each element, name and value. -/
inductive Written : Item → List Char → Prop where
  | null : Written (.value .null) ['n', 'u', 'l', 'l']
  | isTrue : Written (.value (.bool true)) ['t', 'r', 'u', 'e']
  | isFalse : Written (.value (.bool false)) ['f', 'a', 'l', 's', 'e']
  | number {numeral : Numeral} {chars : List Char} (valid : numeral.WF)
      (shown : numeral.WrittenAs chars) : Written (.value (.number numeral)) chars
  | string {places : List Place} {chars : List Char} (shown : PlacesText places chars) :
      Written (.value (.string (textOfPlaces places))) ('"' :: (chars ++ ['"']))
  | emptyArray {gap : List Char} (blank : AllBlank gap) :
      Written (.value (.array [])) ('[' :: (gap ++ [']']))
  | array {elements : List Value} {chars : List Char}
      (shown : Written (.elements elements) chars) :
      Written (.value (.array elements)) ('[' :: (chars ++ [']']))
  | emptyObject {gap : List Char} (blank : AllBlank gap) :
      Written (.value (.object [])) ('\x7b' :: (gap ++ ['\x7d']))
  | object {members : List (Option (List Char) × Value)} {chars : List Char}
      (shown : Written (.members members) chars) :
      Written (.value (.object members)) ('\x7b' :: (chars ++ ['\x7d']))
  | lastElement {value : Value} {before chars after : List Char} (lead : AllBlank before)
      (shown : Written (.value value) chars) (trail : AllBlank after) :
      Written (.elements [value]) (before ++ (chars ++ after))
  | element {value : Value} {elements : List Value} {before chars after more : List Char}
      (lead : AllBlank before) (shown : Written (.value value) chars) (trail : AllBlank after)
      (next : Written (.elements elements) more) :
      Written (.elements (value :: elements)) (before ++ (chars ++ (after ++ ',' :: more)))
  | lastMember {places : List Place} {value : Value}
      {before key colon between chars after : List Char} (lead : AllBlank before)
      (name : PlacesText places key) (blank : AllBlank colon) (gap : AllBlank between)
      (shown : Written (.value value) chars) (trail : AllBlank after) :
      Written (.members [(textOfPlaces places, value)])
        (before ++ (nameText key colon ++ (between ++ (chars ++ after))))
  | member {places : List Place} {value : Value}
      {members : List (Option (List Char) × Value)}
      {before key colon between chars after more : List Char} (lead : AllBlank before)
      (name : PlacesText places key) (blank : AllBlank colon) (gap : AllBlank between)
      (shown : Written (.value value) chars) (trail : AllBlank after)
      (next : Written (.members members) more) :
      Written (.members ((textOfPlaces places, value) :: members))
        (before ++ (nameText key colon ++ (between ++ (chars ++ (after ++ ',' :: more)))))

/-- A text of a value, with blanks around it. -/
def TextOf (value : Value) (chars : List Char) : Prop :=
  ∃ before body after, AllBlank before ∧ Written (.value value) body ∧ AllBlank after ∧
    chars = before ++ (body ++ after)

/-! ## How a text starts -/

/-- A character that starts no value. -/
def startsNoValue (char : Char) : Bool := isBlank char || char = ']'

theorem startsNoValue_numeral {first : Char} (start : first = '-' ∨ first.isDigit = true) :
    startsNoValue first = false := by
  rcases start with rfl | digit
  · rfl
  · rw [startsNoValue, Bool.or_eq_false_iff]
    constructor
    · cases blank : isBlank first with
      | false => rfl
      | true =>
          have other := continuesNumeral_of_isBlank blank
          rw [continuesNumeral, digit] at other
          cases other
    · apply decide_eq_false
      rintro rfl
      cases digit

namespace Written

variable {value : Value} {chars rest : List Char}

theorem exists_cons (shown : Written (.value value) chars) :
    ∃ first more, chars = first :: more ∧ startsNoValue first = false := by
  cases shown with
  | number valid shown =>
      obtain ⟨first, more, shape, start⟩ := valid.exists_cons shown
      exact ⟨first, more, shape, startsNoValue_numeral start⟩
  | _ => exact ⟨_, _, rfl, rfl⟩

theorem skipBlanks_value (shown : Written (.value value) chars) (rest : List Char) :
    skipBlanks (chars ++ rest) = chars ++ rest := by
  obtain ⟨first, more, rfl, start⟩ := shown.exists_cons
  rw [startsNoValue, Bool.or_eq_false_iff] at start
  exact skipBlanks_cons start.1 _

/-- The elements of an array do not start with its closing bracket. -/
theorem skipBlanks_elements {elements : List Value} (shown : Written (.elements elements) chars)
    (rest : List Char) :
    ∃ first more, skipBlanks (chars ++ rest) = first :: more ∧ first ≠ ']' := by
  have start : ∀ {value : Value} {before chars : List Char}, AllBlank before →
      Written (.value value) chars → ∀ rest, ∃ first more,
        skipBlanks (before ++ (chars ++ rest)) = first :: more ∧ first ≠ ']' := by
    intro value before chars lead shown rest
    rw [skipBlanks_append lead, shown.skipBlanks_value]
    obtain ⟨first, more, rfl, start⟩ := shown.exists_cons
    rw [startsNoValue, Bool.or_eq_false_iff] at start
    exact ⟨first, _, rfl, of_decide_eq_false start.2⟩
  cases shown with
  | lastElement lead shown | element lead shown =>
      rw [List.append_assoc, List.append_assoc]
      exact start lead shown _

theorem skipBlanks_members {members : List (Option (List Char) × Value)}
    (shown : Written (.members members) chars) (rest : List Char) :
    ∃ more, skipBlanks (chars ++ rest) = '"' :: more := by
  cases shown with
  | lastMember lead | member lead =>
      rw [List.append_assoc, skipBlanks_append lead, nameText, List.cons_append, List.cons_append]
      exact ⟨_, skipBlanks_cons rfl _⟩

end Written

/-! ## Reading -/

theorem readElements_skipBlanks (fuel : Nat) (chars : List Char) :
    readElements fuel (skipBlanks chars) = readElements fuel chars := by
  cases fuel with
  | zero => rw [readElements, readElements]
  | succ fuel => rw [readElements, readElements, skipBlanks_skipBlanks]

theorem readMembers_skipBlanks (fuel : Nat) (chars : List Char) :
    readMembers fuel (skipBlanks chars) = readMembers fuel chars := by
  cases fuel with
  | zero => rw [readMembers, readMembers]
  | succ fuel => rw [readMembers, readMembers, skipBlanks_skipBlanks]

theorem readValue_numeral {numeral : Numeral} {chars rest : List Char} (valid : numeral.WF)
    (shown : numeral.WrittenAs chars) (delimited : Delimited rest) (fuel : Nat) :
    readValue (fuel + 1) (chars ++ rest) = some (.number numeral, rest) := by
  have read := Numeral.readNumeral_append valid shown delimited
  obtain ⟨first, more, shape, start⟩ := valid.exists_cons shown
  rw [shape, List.cons_append] at read ⊢
  -- no other value starts with a sign or a digit
  have other : ∀ letter, letter ≠ '-' → letter.isDigit = false → first ≠ letter := by
    rintro letter unsigned mark rfl
    rcases start with minus | digit
    · exact unsigned minus
    · rw [mark] at digit
      cases digit
  rw [readValue]
  · rw [read]
    rfl
  all_goals exact fun _ same => other _ (by decide) (by decide) (List.cons.inj same).1

/-- With fuel for twice its length an item is read from its text. A value may be followed by what
does not go on it, and a list is closed. -/
def Reads : Item → List Char → Prop
  | .value value, chars => ∀ fuel rest, 2 * chars.length ≤ fuel → Delimited rest →
      readValue fuel (chars ++ rest) = some (value, rest)
  | .elements elements, chars => ∀ fuel rest, 2 * chars.length + 1 ≤ fuel →
      readElements fuel (chars ++ ']' :: rest) = some (elements, rest)
  | .members members, chars => ∀ fuel rest, 2 * chars.length + 1 ≤ fuel →
      readMembers fuel (chars ++ '\x7d' :: rest) = some (members, rest)

section Lists

variable {value : Value} {fuel : Nat} {before chars after rest : List Char}

theorem delimited_close (more : List Char) : Delimited (']' :: more) ∧
    Delimited ('\x7d' :: more) ∧ Delimited (',' :: more) := by
  refine ⟨?_, ?_, ?_⟩
  all_goals
    rintro _ ⟨⟩
    rfl

/-- One element is read, and then what follows it. -/
theorem readElements_append (lead : AllBlank before) (shown : Written (.value value) chars)
    (trail : AllBlank after) (reads : Reads (.value value) chars) (enough : 2 * chars.length ≤ fuel)
    (delimited : Delimited rest) :
    readElements (fuel + 1) (before ++ (chars ++ (after ++ rest))) =
      match skipBlanks rest with
      | ']' :: rest => some ([value], rest)
      | ',' :: rest => do
        let (values, rest) ← readElements fuel rest
        pure (value :: values, rest)
      | _ => none := by
  rw [readElements, skipBlanks_append lead, shown.skipBlanks_value,
    reads fuel _ enough (.of_blank trail delimited)]
  simp only [Option.bind_eq_bind, Option.bind_some, skipBlanks_append trail]
  rfl

/-- One member is read, and then what follows it. -/
theorem readMembers_append {places : List Place} {key colon between : List Char}
    (lead : AllBlank before) (name : PlacesText places key) (blank : AllBlank colon)
    (gap : AllBlank between) (shown : Written (.value value) chars) (trail : AllBlank after)
    (reads : Reads (.value value) chars) (enough : 2 * chars.length ≤ fuel)
    (delimited : Delimited rest) :
    readMembers (fuel + 1) (before ++ (nameText key colon ++ (between ++
      (chars ++ (after ++ rest))))) =
      match skipBlanks rest with
      | '\x7d' :: rest => some ([(textOfPlaces places, value)], rest)
      | ',' :: rest => do
        let (members, rest) ← readMembers fuel rest
        pure ((textOfPlaces places, value) :: members, rest)
      | _ => none := by
  have quote : ∀ more, skipBlanks ('"' :: more) = '"' :: more := skipBlanks_cons rfl
  have mark : ∀ more, skipBlanks (':' :: more) = ':' :: more := skipBlanks_cons rfl
  have start : ∀ more,
      nameText key colon ++ more = '"' :: (key ++ '"' :: (colon ++ ':' :: more)) := by
    intro more
    simp only [nameText, List.cons_append, List.append_assoc, List.nil_append]
  have value := reads fuel _ enough (.of_blank trail delimited)
  rw [readMembers, skipBlanks_append lead, start, quote]
  simp only [name.readString_append, skipBlanks_append blank, mark, skipBlanks_append gap,
    shown.skipBlanks_value, value, Option.bind_eq_bind, Option.bind_some, skipBlanks_append trail]
  rfl

end Lists

namespace Reads

/-- A value has a first character, so there is fuel to enter it. -/
theorem of_succ {value : Value} {first : Char} {chars : List Char}
    (reads : ∀ fuel rest, 2 * chars.length + 1 ≤ fuel → Delimited rest →
      readValue (fuel + 1) (first :: (chars ++ rest)) = some (value, rest)) :
    Reads (.value value) (first :: chars) := by
  intro fuel rest enough delimited
  rw [List.length_cons] at enough
  cases fuel with
  | zero => omega
  | succ fuel => exact reads fuel rest (by omega) delimited

theorem number {numeral : Numeral} {chars : List Char} (valid : numeral.WF)
    (shown : numeral.WrittenAs chars) : Reads (.value (.number numeral)) chars := by
  obtain ⟨first, more, rfl, -⟩ := valid.exists_cons shown
  exact of_succ fun fuel rest _ delimited => readValue_numeral valid shown delimited fuel

theorem string {places : List Place} {chars : List Char} (shown : PlacesText places chars) :
    Reads (.value (.string (textOfPlaces places))) ('"' :: (chars ++ ['"'])) := by
  apply of_succ
  intro fuel rest _ _
  rw [List.append_assoc, List.singleton_append, readValue, shown.readString_append]
  rfl

theorem emptyArray {gap : List Char} (blank : AllBlank gap) :
    Reads (.value (.array [])) ('[' :: (gap ++ [']'])) := by
  apply of_succ
  intro fuel rest _ _
  rw [List.append_assoc, List.singleton_append, readValue, skipBlanks_append blank,
    skipBlanks_cons rfl]
  rfl

theorem array {elements : List Value} {chars : List Char}
    (shown : Written (.elements elements) chars) (reads : Reads (.elements elements) chars) :
    Reads (.value (.array elements)) ('[' :: (chars ++ [']'])) := by
  apply of_succ
  intro fuel rest enough _
  rw [List.length_append] at enough
  have read := reads fuel rest (by omega)
  obtain ⟨first, more, start, other⟩ := shown.skipBlanks_elements (']' :: rest)
  rw [← readElements_skipBlanks, start] at read
  rw [List.append_assoc, List.singleton_append, readValue, start]
  split
  next same => exact absurd (List.cons.inj same).1 other
  next => rw [read, Option.map_some]

theorem emptyObject {gap : List Char} (blank : AllBlank gap) :
    Reads (.value (.object [])) ('\x7b' :: (gap ++ ['\x7d'])) := by
  apply of_succ
  intro fuel rest _ _
  rw [List.append_assoc, List.singleton_append, readValue, skipBlanks_append blank,
    skipBlanks_cons rfl]
  rfl

theorem object {members : List (Option (List Char) × Value)} {chars : List Char}
    (shown : Written (.members members) chars) (reads : Reads (.members members) chars) :
    Reads (.value (.object members)) ('\x7b' :: (chars ++ ['\x7d'])) := by
  apply of_succ
  intro fuel rest enough _
  rw [List.length_append] at enough
  have read := reads fuel rest (by omega)
  obtain ⟨more, start⟩ := shown.skipBlanks_members ('\x7d' :: rest)
  rw [← readMembers_skipBlanks, start] at read
  rw [List.append_assoc, List.singleton_append, readValue, start]
  exact congrArg (Option.map fun (members, rest) => (Value.object members, rest)) read

section Lists

variable {value : Value} {before chars after : List Char}

theorem lastElement (lead : AllBlank before) (shown : Written (.value value) chars)
    (trail : AllBlank after) (reads : Reads (.value value) chars) :
    Reads (.elements [value]) (before ++ (chars ++ after)) := by
  intro fuel rest enough
  simp only [List.length_append] at enough
  cases fuel with
  | zero => omega
  | succ fuel =>
      rw [List.append_assoc, List.append_assoc,
        readElements_append lead shown trail reads (by omega) (delimited_close rest).1,
        skipBlanks_cons rfl]
      rfl

theorem element {elements : List Value} {more : List Char} (lead : AllBlank before)
    (shown : Written (.value value) chars) (trail : AllBlank after)
    (reads : Reads (.value value) chars) (next : Reads (.elements elements) more) :
    Reads (.elements (value :: elements)) (before ++ (chars ++ (after ++ ',' :: more))) := by
  intro fuel rest enough
  simp only [List.length_append, List.length_cons] at enough
  cases fuel with
  | zero => omega
  | succ fuel =>
      simp only [List.append_assoc, List.cons_append]
      rw [readElements_append lead shown trail reads (by omega) (delimited_close _).2.2,
        skipBlanks_cons rfl]
      simp only [next fuel rest (by omega), Option.bind_eq_bind, Option.bind_some]
      rfl

variable {places : List Place} {key colon between : List Char}

theorem lastMember (lead : AllBlank before) (name : PlacesText places key)
    (blank : AllBlank colon) (gap : AllBlank between) (shown : Written (.value value) chars)
    (trail : AllBlank after) (reads : Reads (.value value) chars) :
    Reads (.members [(textOfPlaces places, value)])
      (before ++ (nameText key colon ++ (between ++ (chars ++ after)))) := by
  intro fuel rest enough
  simp only [List.length_append] at enough
  cases fuel with
  | zero => omega
  | succ fuel =>
      simp only [List.append_assoc]
      rw [readMembers_append lead name blank gap shown trail reads (by omega)
          (delimited_close rest).2.1,
        skipBlanks_cons rfl]
      rfl

theorem member {members : List (Option (List Char) × Value)} {more : List Char}
    (lead : AllBlank before) (name : PlacesText places key) (blank : AllBlank colon)
    (gap : AllBlank between) (shown : Written (.value value) chars) (trail : AllBlank after)
    (reads : Reads (.value value) chars) (next : Reads (.members members) more) :
    Reads (.members ((textOfPlaces places, value) :: members))
      (before ++ (nameText key colon ++ (between ++ (chars ++ (after ++ ',' :: more))))) := by
  intro fuel rest enough
  simp only [List.length_append, List.length_cons] at enough
  cases fuel with
  | zero => omega
  | succ fuel =>
      simp only [List.append_assoc, List.cons_append]
      rw [readMembers_append lead name blank gap shown trail reads (by omega)
          (delimited_close _).2.2,
        skipBlanks_cons rfl]
      simp only [next fuel rest (by omega), Option.bind_eq_bind, Option.bind_some]
      rfl

end Lists

end Reads

/-- The induction is on the grammar. An array or an object spends one unit of fuel, and each of its
elements or members another one. -/
theorem Written.reads {item : Item} {chars : List Char} (shown : Written item chars) :
    Reads item chars := by
  induction shown with
  | null | isTrue | isFalse =>
      apply Reads.of_succ
      intro fuel rest _ _
      simp only [List.cons_append, List.nil_append]
      rw [readValue]
  | number valid shown => exact .number valid shown
  | string shown => exact .string shown
  | emptyArray blank => exact .emptyArray blank
  | array shown ih => exact .array shown ih
  | emptyObject blank => exact .emptyObject blank
  | object shown ih => exact .object shown ih
  | lastElement lead shown trail ih => exact .lastElement lead shown trail ih
  | element lead shown trail next ih ih' => exact .element lead shown trail ih ih'
  | lastMember lead name blank gap shown trail ih =>
      exact .lastMember lead name blank gap shown trail ih
  | member lead name blank gap shown trail next ih ih' =>
      exact .member lead name blank gap shown trail ih ih'

/-- Every text of a value is read as this value. -/
theorem read?_eq_some {value : Value} {chars : List Char} (text : TextOf value chars) :
    read? chars = some value := by
  obtain ⟨before, body, after, lead, shown, trail, rfl⟩ := text
  have delimited : Delimited [] := by rintro _ ⟨⟩
  have end_ : Delimited after := by
    rw [← List.append_nil after]
    exact .of_blank trail delimited
  have stop : skipBlanks after = [] := by
    rw [← List.append_nil after, skipBlanks_append trail]
    rfl
  have enough : 2 * body.length ≤ 2 * (before ++ (body ++ after)).length + 1 := by
    simp only [List.length_append]
    omega
  rw [read?, skipBlanks_append lead, shown.skipBlanks_value, shown.reads _ _ enough end_]
  exact if_pos stop

end Rover.Json
