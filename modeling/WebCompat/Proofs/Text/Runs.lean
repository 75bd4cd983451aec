import WebCompat.Proofs.Text.Span

/-!
The longest runs of a class of characters in a text, one behind the other. A character outside of
the class cuts a text in two, and the runs of the text are those of the two parts.

Owns: the runs of a text, with the equations of their recursion; and that the spans of a text stand
in order, so that none is counted twice.
-/

namespace WebCompat.Text

variable {inClass : Char → Bool}

/-! ## Runs -/

/-- The longest runs of a class in a text, in their order. -/
def runs (inClass : Char → Bool) (text : List Char) : List String :=
  (spansFrom inClass 0 text).map Span.word

/-- The words of the spans do not depend on where the text starts. -/
theorem map_word_spansFrom (inClass : Char → Bool) (text : List Char) (offset other : Nat) :
    (spansFrom inClass offset text).map Span.word =
      (spansFrom inClass other text).map Span.word := by
  induction offset, text using spansFrom.induct inClass generalizing other with
  | case1 offset => rw [spansFrom, spansFrom]
  | case2 offset c text inside word stop inductionHypothesis =>
      rw [spansFrom, spansFrom, if_pos inside, if_pos inside, List.map_cons, List.map_cons,
        inductionHypothesis]
  | case3 offset c text outside inductionHypothesis =>
      rw [spansFrom, spansFrom, if_neg outside, if_neg outside, inductionHypothesis]

theorem runs_nil (inClass : Char → Bool) : runs inClass [] = [] := by
  rw [runs, spansFrom, List.map_nil]

theorem runs_cons_of_inside {c : Char} (inside : inClass c = true) (text : List Char) :
    runs inClass (c :: text) =
      String.ofList (c :: text.takeWhile inClass) :: runs inClass (text.dropWhile inClass) := by
  rw [runs, spansFrom, if_pos inside, List.map_cons, runs, map_word_spansFrom]

theorem runs_cons_of_outside {c : Char} (outside : inClass c = false) (text : List Char) :
    runs inClass (c :: text) = runs inClass text := by
  rw [runs, spansFrom, if_neg (Bool.eq_false_iff.mp outside), runs, map_word_spansFrom]

/-- A run that a text begins with, cut off. -/
theorem runs_append_of_ends {run rest : List Char} (notEmpty : run ≠ [])
    (inside : ∀ c ∈ run, inClass c = true) (ends : ∀ c ∈ rest.head?, inClass c = false) :
    runs inClass (run ++ rest) = String.ofList run :: runs inClass rest := by
  obtain ⟨c, run, rfl⟩ := List.exists_cons_of_ne_nil notEmpty
  have insideRun := fun other member => inside other (List.mem_cons_of_mem c member)
  rw [List.cons_append, runs_cons_of_inside (inside c List.mem_cons_self),
    takeWhile_append_of_ends insideRun ends, dropWhile_append_of_ends insideRun ends]

/-- **A character outside of the class cuts the runs.** The induction takes a run off the front, or
a character that is in none. -/
theorem runs_append_cons {c : Char} (outside : inClass c = false) (front back : List Char) :
    runs inClass (front ++ c :: back) = runs inClass front ++ runs inClass back := by
  have step : ∀ offset : Nat,
      runs inClass (front ++ c :: back) = runs inClass front ++ runs inClass back := by
    intro offset
    induction offset, front using spansFrom.induct inClass with
    | case1 offset =>
        rw [List.nil_append, runs_cons_of_outside outside, runs_nil, List.nil_append]
    | case2 offset first front inside word stop inductionHypothesis =>
        have isRun := isWord_takeWhile inside front
        have split : first :: front = word ++ front.dropWhile inClass := by
          simp only [word, List.cons_append, List.takeWhile_append_dropWhile]
        have ends : ∀ other ∈ (front.dropWhile inClass ++ c :: back).head?,
            inClass other = false := by
          intro other isHead
          cases isRest : front.dropWhile inClass with
          | nil =>
              rw [isRest] at isHead
              cases isHead
              exact outside
          | cons next others =>
              rw [isRest] at isHead
              exact isRun.endsThere other (by rw [isRest]; exact isHead)
        rw [split, List.append_assoc, runs_append_of_ends isRun.notEmpty isRun.inClass ends,
          runs_append_of_ends isRun.notEmpty isRun.inClass isRun.endsThere, inductionHypothesis,
          List.cons_append]
    | case3 offset first front outsideFirst inductionHypothesis =>
        have isOutside := Bool.eq_false_iff.mpr outsideFirst
        rw [List.cons_append, runs_cons_of_outside isOutside, runs_cons_of_outside isOutside,
          inductionHypothesis]
  exact step 0

/-! ## Spans -/

/-- Every span starts before the ones behind it. -/
theorem pairwise_spansFrom (inClass : Char → Bool) (offset : Nat) (text : List Char) :
    (spansFrom inClass offset text).Pairwise fun span next => span.start < next.start := by
  induction offset, text using spansFrom.induct inClass with
  | case1 offset =>
      rw [spansFrom]
      exact List.Pairwise.nil
  | case2 offset c text inside word stop inductionHypothesis =>
      rw [spansFrom, if_pos inside]
      refine List.Pairwise.cons ?_ inductionHypothesis
      intro next member
      obtain ⟨before, after, _, _, start, _⟩ := exists_of_mem_spansFrom member
      have moves : 0 < byteLength word := byteLength_pos (List.cons_ne_nil _ _)
      show offset < next.start
      rw [start]
      exact Nat.lt_of_lt_of_le (Nat.lt_add_of_pos_right moves) (Nat.le_add_right _ _)
  | case3 offset c text outside inductionHypothesis =>
      rw [spansFrom, if_neg outside]
      exact inductionHypothesis

theorem nodup_spans (inClass : Char → Bool) (line : String) : (spans inClass line).Nodup := by
  refine (pairwise_spansFrom inClass 0 line.toList).imp ?_
  rintro span next before rfl
  exact Nat.lt_irrefl _ before

end WebCompat.Text
