/-!
# Parts of texts

Whether one text stands somewhere within another.
-/

namespace ReleaseFinder.Text

/-- The first text stands somewhere within the second. -/
def occurs (part : List Char) : List Char → Bool
  | [] => part.isEmpty
  | c :: rest => part.isPrefixOf (c :: rest) || occurs part rest

/-- A text occurs in another exactly when the other is it with something before and after. -/
theorem occurs_iff (part text : List Char) : occurs part text = true ↔ part <:+: text := by
  induction text with
  | nil => simp [occurs]
  | cons c rest inductionHypothesis =>
    simp [occurs, inductionHypothesis, List.infix_cons_iff]

end ReleaseFinder.Text
