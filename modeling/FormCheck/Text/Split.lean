namespace FormCheck.Text

/-!
# Splitting texts

A text is split at every occurrence of a separator; the parts are one more than
the separators.
-/

/-- The parts of some characters between the separators. -/
def splitAt (separator : Char) : List Char → List (List Char)
  | [] => [[]]
  | character :: rest =>
      if character = separator then
        [] :: splitAt separator rest
      else
        match splitAt separator rest with
        | [] => [[character]]
        | part :: parts => (character :: part) :: parts

/-- Splitting leaves at least one part. -/
theorem splitAt_ne_nil (separator : Char) (characters : List Char) :
    splitAt separator characters ≠ [] := by
  cases characters with
  | nil => simp [splitAt]
  | cons character rest =>
      simp only [splitAt]
      split
      · simp
      · split <;> simp

end FormCheck.Text
