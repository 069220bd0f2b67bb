/-!
# Cutting a text at a separator
-/

namespace Rover.Text

/-- The pieces of a text between the separators, the empty ones included: one more piece
than there are separators. -/
def pieces (separator : Char) : List Char → List (List Char)
  | [] => [[]]
  | char :: rest =>
    if char = separator then [] :: pieces separator rest
    else match pieces separator rest with
      | [] => [[char]]
      | piece :: more => (char :: piece) :: more

@[simp] theorem pieces_ne_nil (separator : Char) (chars : List Char) :
    pieces separator chars ≠ [] := by
  induction chars with
  | nil => simp [pieces]
  | cons char rest _ =>
    unfold pieces
    split
    · simp
    · split <;> simp

end Rover.Text
