import Mathlib.Data.List.TakeWhile
import Rover.Text.Blank

/-!
# Texts between blanks

Every text is a trimmed text between blanks, in one way only. The case of ASCII letters has no part
in this.
-/

namespace Rover.Text

/-- A row that consists of blanks. -/
def AllBlank (chars : List Char) : Prop := ∀ char ∈ chars, isBlank char = true

/-- Neither end of the text is blank. -/
structure Trimmed (chars : List Char) : Prop where
  first : ∀ char ∈ chars.head?, isBlank char = false
  last : ∀ char ∈ chars.getLast?, isBlank char = false

theorem dropWhile_isBlank_of_head? {chars : List Char}
    (solid : ∀ char ∈ chars.head?, isBlank char = false) : chars.dropWhile isBlank = chars := by
  cases chars with
  | nil => rfl
  | cons char rest =>
      rw [List.dropWhile_cons_of_neg]
      rw [solid char rfl]
      exact Bool.false_ne_true

theorem head?_dropWhile_isBlank (chars : List Char) :
    ∀ char ∈ (chars.dropWhile isBlank).head?, isBlank char = false := by
  intro char first
  have other := List.head?_dropWhile_not isBlank chars
  rw [Option.mem_def.mp first] at other
  exact other

/-- Nothing but the blanks around a trimmed text is taken off. -/
theorem trim_append {front core back : List Char} (before : AllBlank front)
    (trimmed : Trimmed core) (after : AllBlank back) : trim (front ++ core ++ back) = core := by
  have last : core.reverse.dropWhile isBlank = core.reverse := by
    apply dropWhile_isBlank_of_head?
    rw [List.head?_reverse]
    exact trimmed.last
  have after' : ∀ char ∈ back.reverse, isBlank char = true :=
    fun char inside => after char (List.mem_reverse.mp inside)
  rw [trim, List.append_assoc, List.dropWhile_append_of_pos before]
  cases core with
  | nil => rw [List.nil_append, List.dropWhile_eq_nil_iff.mpr after]; rfl
  | cons char rest =>
      have first : ((char :: rest) ++ back).dropWhile isBlank = (char :: rest) ++ back :=
        dropWhile_isBlank_of_head? trimmed.first
      rw [first, List.reverse_append, List.dropWhile_append_of_pos after', last,
        List.reverse_reverse]

/-- Nothing is taken off a trimmed text. -/
theorem Trimmed.trim_eq {chars : List Char} (trimmed : Trimmed chars) : trim chars = chars := by
  have noBlanks : AllBlank [] := by rintro _ ⟨⟩
  simpa using trim_append noBlanks trimmed noBlanks

theorem Trimmed.of_solid {chars : List Char} (solid : ∀ char ∈ chars, isBlank char = false) :
    Trimmed chars where
  first _ inside := solid _ (List.mem_of_mem_head? inside)
  last _ inside := solid _ (List.mem_of_mem_getLast? inside)

/-- What is left of a text is trimmed, and only blanks stood around it. -/
theorem trim_spec (chars : List Char) :
    Trimmed (trim chars) ∧
      ∃ front back, AllBlank front ∧ AllBlank back ∧ chars = front ++ trim chars ++ back := by
  let rest := chars.dropWhile isBlank
  let back := (rest.reverse.takeWhile isBlank).reverse
  have split : rest = trim chars ++ back := by
    have whole := congrArg List.reverse
      (List.takeWhile_append_dropWhile (p := isBlank) (l := rest.reverse))
    rw [List.reverse_append, List.reverse_reverse] at whole
    exact whole.symm
  have blank : AllBlank back :=
    fun char inside => List.mem_takeWhile_imp (List.mem_reverse.mp inside)
  refine ⟨⟨?_, ?_⟩, chars.takeWhile isBlank, back, ?_, blank, ?_⟩
  · intro char first
    apply head?_dropWhile_isBlank chars char
    change char ∈ rest.head?
    rw [split, List.head?_append, Option.mem_def.mp first]
    rfl
  · intro char last
    apply head?_dropWhile_isBlank rest.reverse char
    rw [trim, List.getLast?_reverse] at last
    exact last
  · exact fun char inside => List.mem_takeWhile_imp inside
  · rw [List.append_assoc, ← split, List.takeWhile_append_dropWhile]

/-- A text is trimmed just if trimming leaves it as it is. -/
theorem trim_eq_iff {chars : List Char} : trim chars = chars ↔ Trimmed chars := by
  constructor
  · intro same
    rw [← same]
    exact (trim_spec chars).1
  · exact Trimmed.trim_eq

/-- Further blanks around a text make no difference. -/
theorem trim_padded {front back : List Char} (before : AllBlank front) (after : AllBlank back)
    (chars : List Char) : trim (front ++ chars ++ back) = trim chars := by
  obtain ⟨trimmed, front', back', before', after', split⟩ := trim_spec chars
  have join : front ++ chars ++ back = (front ++ front') ++ trim chars ++ (back' ++ back) := by
    calc front ++ chars ++ back
        = front ++ (front' ++ trim chars ++ back') ++ back := by rw [← split]
      _ = (front ++ front') ++ trim chars ++ (back' ++ back) := by simp only [List.append_assoc]
  rw [join]
  apply trim_append _ trimmed
  · exact List.forall_mem_append.mpr ⟨after', after⟩
  · exact List.forall_mem_append.mpr ⟨before, before'⟩

/-! ## The case of letters -/

/-- No printed ASCII character is blank. -/
theorem isBlank_of_printed {char : Char} (low : 0x20 < char.toNat) (high : char.toNat < 0x85) :
    isBlank char = false := by
  simp only [isBlank, blankRanges, List.any_eq_false, Bool.and_eq_true, decide_eq_true_eq]
  intro range inside
  simp only [List.mem_cons, List.not_mem_nil, or_false] at inside
  rcases inside with rfl | rfl | rfl | rfl | rfl | rfl | rfl | rfl | rfl | rfl <;> omega

theorem toNat_toLower (char : Char) :
    char.toLower.toNat =
      if 65 ≤ char.toNat ∧ char.toNat ≤ 90 then char.toNat + 32 else char.toNat := by
  have bounds : (char.val ≥ 'A'.val ∧ char.val ≤ 'Z'.val) ↔ 65 ≤ char.toNat ∧ char.toNat ≤ 90 := by
    simp only [ge_iff_le, UInt32.le_iff_toNat_le]
    rfl
  delta Char.toLower
  split
  next upper =>
    have letter := bounds.mp upper
    have step : ('a'.val - 'A'.val).toNat = 32 := rfl
    have small : char.toNat + 32 < 4294967296 := by omega
    rw [if_pos letter]
    change (char.val + ('a'.val - 'A'.val)).toNat = _
    rw [UInt32.toNat_add, step]
    exact Nat.mod_eq_of_lt small
  next other => rw [if_neg (mt bounds.mpr other)]

theorem toLower_eq_self {char : Char} (other : ¬ (65 ≤ char.toNat ∧ char.toNat ≤ 90)) :
    char.toLower = char := by
  apply Char.toNat_inj.mp
  rw [toNat_toLower, if_neg other]

theorem toLower_toLower (char : Char) : char.toLower.toLower = char.toLower := by
  apply toLower_eq_self
  rw [toNat_toLower]
  split <;> omega

theorem isBlank_toLower (char : Char) : isBlank char.toLower = isBlank char := by
  by_cases letter : 65 ≤ char.toNat ∧ char.toNat ≤ 90
  · have lower := toNat_toLower char
    rw [if_pos letter] at lower
    rw [isBlank_of_printed (by omega) (by omega), isBlank_of_printed (by omega) (by omega)]
  · rw [toLower_eq_self letter]

theorem trim_map_toLower (chars : List Char) :
    trim (chars.map Char.toLower) = (trim chars).map Char.toLower := by
  have same : isBlank ∘ Char.toLower = isBlank := funext isBlank_toLower
  simp only [trim, List.dropWhile_map, ← List.map_reverse, same]

end Rover.Text
