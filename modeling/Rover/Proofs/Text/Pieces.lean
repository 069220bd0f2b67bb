import Mathlib.Data.List.Basic
import Rover.Text.Pieces

/-!
# Pieces of a text

Cutting a text at a separator is undone by joining the pieces, and joining pieces without the
separator in them is undone by cutting.
-/

namespace Rover.Text

variable {separator : Char}

theorem pieces_eq_splitOn (chars : List Char) :
    pieces separator chars = chars.splitOn separator := by
  induction chars with
  | nil => rfl
  | cons char rest ih =>
      rw [pieces, List.splitOn_cons_eq_if_modifyHead, ih]
      by_cases cut : char = separator
      · rw [if_pos cut, if_pos (beq_iff_eq.mpr cut)]
      · rw [if_neg cut, if_neg (mt beq_iff_eq.mp cut)]
        cases cuts : rest.splitOn separator with
        | nil => exact absurd cuts (List.splitOn_ne_nil separator rest)
        | cons piece more => rfl

theorem not_mem_of_mem_pieces {chars piece : List Char}
    (inside : piece ∈ pieces separator chars) : separator ∉ piece := by
  induction chars generalizing piece with
  | nil =>
      rw [List.mem_singleton.mp inside]
      exact List.not_mem_nil
  | cons char rest ih =>
      unfold pieces at inside
      split at inside
      next =>
        rcases List.mem_cons.mp inside with rfl | later
        · exact List.not_mem_nil
        · exact ih later
      next other =>
        split at inside
        next empty => exact absurd empty (pieces_ne_nil separator rest)
        next first more cut =>
          rw [cut] at ih
          rcases List.mem_cons.mp inside with rfl | later
          · rintro (_ | ⟨_, among⟩)
            · exact other rfl
            · exact ih List.mem_cons_self among
          · exact ih (List.mem_cons_of_mem _ later)

end Rover.Text
