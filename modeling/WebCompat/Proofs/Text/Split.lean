import WebCompat.Text.Split

/-!
Parts between separators. A separator cuts a sequence in two, and the parts of the sequence are
those of the two pieces; what holds no separator is a part of its own.
-/

namespace WebCompat.Text

variable {α : Type} [DecidableEq α] {separator : α}

theorem splitAt_ne_nil (separator : α) (s : List α) : splitAt separator s ≠ [] := by
  cases s with
  | nil => exact List.cons_ne_nil _ _
  | cons a rest =>
      rw [splitAt]
      split
      · split <;> exact List.cons_ne_nil _ _
      · exact List.cons_ne_nil _ _

theorem splitAt_cons_self (rest : List α) :
    splitAt separator (separator :: rest) = [] :: splitAt separator rest := by
  obtain ⟨first, others, isSplit⟩ := List.exists_cons_of_ne_nil (splitAt_ne_nil separator rest)
  rw [splitAt, isSplit]
  exact if_pos rfl

/-- An element that is no separator belongs to the first part. -/
theorem splitAt_cons_of_ne {a : α} (differs : a ≠ separator) {rest first : List α}
    {others : List (List α)} (isSplit : splitAt separator rest = first :: others) :
    splitAt separator (a :: rest) = (a :: first) :: others := by
  rw [splitAt, isSplit]
  exact if_neg differs

theorem splitAt_of_not_mem {s : List α} (none : separator ∉ s) : splitAt separator s = [s] := by
  induction s with
  | nil => rfl
  | cons a rest inductionHypothesis =>
      rw [List.mem_cons, not_or] at none
      exact splitAt_cons_of_ne (Ne.symm none.1) (inductionHypothesis none.2)

/-- **A separator cuts the parts.** -/
theorem splitAt_append_cons (front back : List α) :
    splitAt separator (front ++ separator :: back) =
      splitAt separator front ++ splitAt separator back := by
  induction front with
  | nil => exact splitAt_cons_self back
  | cons a front inductionHypothesis =>
      obtain ⟨first, others, isSplit⟩ :=
        List.exists_cons_of_ne_nil (splitAt_ne_nil separator front)
      rw [isSplit, List.cons_append] at inductionHypothesis
      by_cases isSeparator : a = separator
      · subst isSeparator
        rw [List.cons_append, splitAt_cons_self, splitAt_cons_self, inductionHypothesis, isSplit]
        rfl
      · rw [List.cons_append, splitAt_cons_of_ne isSeparator inductionHypothesis,
          splitAt_cons_of_ne isSeparator isSplit]
        rfl

end WebCompat.Text
