/-!
Whether one text occurs within another.
-/

namespace WebCompat.Text

/-- Whether a text occurs within another, as characters that stand together. -/
def occursWithin (needle : List Char) : (text : List Char) → Bool
  | [] => needle.isEmpty
  | c :: text => needle.isPrefixOf (c :: text) || occursWithin needle text

/-- The search for one text within another decides whether it is an infix. -/
theorem occursWithin_iff {needle text : List Char} :
    occursWithin needle text = true ↔ needle <:+: text := by
  induction text with
  | nil => simp [occursWithin]
  | cons c text inductionHypothesis =>
    simp [occursWithin, inductionHypothesis, List.infix_cons_iff]

end WebCompat.Text
