/-!
Reading from the front of a text.  A reader takes some characters off the front and returns what they
say together with the rest, or nothing if the text does not start in the right way.
-/

namespace CandidatePool.Text

/-- A reader of one thing. -/
abbrev Reader (α : Type) := List Char → Option (α × List Char)

/-- The rest of a text that starts with the character. -/
def after? (c : Char) : List Char → Option (List Char)
  | [] => none
  | d :: rest => if d = c then some rest else none

/-- A run is taken off the front as a whole, if what follows does not go on in the same way. -/
theorem takeWhile_dropWhile_append {p : Char → Bool} {run rest : List Char} (hrun : ∀ c ∈ run, p c)
    (hrest : ∀ c ∈ rest.head?, p c = false) :
    (run ++ rest).takeWhile p = run ∧ (run ++ rest).dropWhile p = rest := by
  rw [List.takeWhile_append_of_pos hrun, List.dropWhile_append_of_pos hrun]
  cases rest with
  | nil => simp
  | cons c rest => simp [hrest c rfl]

end CandidatePool.Text
