import WebCompat.Text.Lines

/-!
Lines as pieces of their text: what stands directly around a line is a line break, or nothing.
-/

namespace WebCompat.Text

/-- Dropping a carriage return from a line given backwards leaves it at the end of the line. -/
theorem reverse_dropReturn_append (line : List Char) :
    ∃ ending, line.reverse = (dropReturn line).reverse ++ ending ∧
      ∀ c ∈ ending.head?, c = '\r' := by
  unfold dropReturn
  split
  · rename_i rest
    refine ⟨['\r'], List.reverse_cons, ?_⟩
    intro c member
    exact (Option.mem_some.mp member).symm
  · refine ⟨[], (List.append_nil _).symm, ?_⟩
    intro c member
    cases member

/-- A line of what follows the part of a line that is read already. The induction is on what
follows; a line break starts over with nothing read. -/
theorem exists_of_mem_linesAfter {current rest line : List Char}
    (member : line ∈ linesAfter current rest) :
    ∃ before after, current.reverse ++ rest = before ++ line ++ after ∧
      (∀ c ∈ before.getLast?, c = '\n') ∧ ∀ c ∈ after.head?, c = '\n' ∨ c = '\r' := by
  induction rest generalizing current with
  | nil =>
      unfold linesAfter at member
      split at member
      · cases member
      · rw [List.mem_singleton] at member
        subst member
        refine ⟨[], [], ?_, ?_, ?_⟩
        · simp
        · intro c none
          cases none
        · intro c none
          cases none
  | cons first rest inductionHypothesis =>
      unfold linesAfter at member
      split at member
      · rename_i isBreak
        subst isBreak
        rcases List.mem_cons.mp member with isFirst | later
        · obtain ⟨ending, split, isReturn⟩ := reverse_dropReturn_append current
          refine ⟨[], ending ++ '\n' :: rest, ?_, ?_, ?_⟩
          · rw [isFirst, split]
            simp
          · intro c none
            cases none
          · intro c isHead
            cases ending with
            | nil => exact .inl (Option.mem_some.mp isHead).symm
            | cons return_ ending => exact .inr (isReturn c isHead)
        · obtain ⟨before, after, split, startsThere, endsThere⟩ := inductionHypothesis later
          rw [List.reverse_nil, List.nil_append] at split
          refine ⟨current.reverse ++ '\n' :: before, after, ?_, ?_, endsThere⟩
          · rw [split]
            simp
          · intro c isLast
            rw [List.getLast?_append, List.getLast?_cons] at isLast
            cases before with
            | nil => exact (Option.mem_some.mp isLast).symm
            | cons other before =>
                apply startsThere
                rw [List.getLast?_cons] at isLast ⊢
                exact isLast
      · obtain ⟨before, after, split, edges⟩ := inductionHypothesis member
        refine ⟨before, after, ?_, edges⟩
        rw [← split, List.reverse_cons, List.append_assoc, List.singleton_append]

/-- Every line stands in its text between line breaks. -/
theorem exists_of_mem_lines {text line : String} (member : line ∈ lines text) :
    ∃ before after, text.toList = before ++ line.toList ++ after ∧
      (∀ c ∈ before.getLast?, c = '\n') ∧ ∀ c ∈ after.head?, c = '\n' ∨ c = '\r' := by
  obtain ⟨chars, isLine, rfl⟩ := List.mem_map.mp member
  rw [String.toList_ofList]
  exact exists_of_mem_linesAfter isLine

end WebCompat.Text
