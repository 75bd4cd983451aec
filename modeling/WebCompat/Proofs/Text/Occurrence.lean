import WebCompat.Text.Occurrence

/-!
Occurrences of a word as pieces of a text. A word is counted at least once if and only if some
piece of the text is equal to it up to case and has a word boundary at both ends; which pieces are
skipped, because an occurrence before them runs into them, decides about nothing but how often.

Owns: pieces that stand apart; what the search takes off the front of a text; and that a count is
positive exactly when there is something to count.
-/

namespace WebCompat.Text

/-- Whether a piece of a text has a word boundary at both ends. -/
def StandsApart (before piece after : List Char) : Prop :=
  isBoundary before.getLast? piece.head? = true ∧ isBoundary piece.getLast? after.head? = true

instance (before piece after : List Char) : Decidable (StandsApart before piece after) :=
  inferInstanceAs (Decidable (_ ∧ _))

/-- Whether a word has a whole-word occurrence in a text, whatever its case. -/
def OccursApart (text word : List Char) : Prop :=
  ∃ before piece after, text = before ++ piece ++ after ∧
    piece.map foldCase = word.map foldCase ∧ StandsApart before piece after

/-! ## At the front of a text -/

/-- A word is taken off a text up to case. -/
theorem foldedWord?_eq_some_iff {last end_ : Char} {word text rest : List Char} :
    foldedWord? last word text = some (end_, rest) ↔
      ∃ piece, text = piece ++ rest ∧ piece.map foldCase = word.map foldCase ∧
        end_ = piece.getLast?.getD last := by
  induction word generalizing last text with
  | nil =>
      constructor
      · intro taken
        rw [foldedWord?, Option.some.injEq, Prod.mk.injEq] at taken
        exact ⟨[], taken.2, rfl, taken.1.symm⟩
      · rintro ⟨piece, split, same, isEnd⟩
        rw [List.map_nil, List.map_eq_nil_iff] at same
        subst same
        rw [split, isEnd]
        rfl
  | cons w word inductionHypothesis =>
      cases text with
      | nil =>
          constructor
          · intro taken
            cases taken
          · rintro ⟨piece, split, same, _⟩
            rw [(List.append_eq_nil_iff.mp split.symm).1] at same
            cases same
      | cons c text =>
          rw [foldedWord?]
          constructor
          · intro taken
            split at taken
            · rename_i sameFirst
              obtain ⟨piece, split, same, isEnd⟩ := inductionHypothesis.mp taken
              refine ⟨c :: piece, ?_, ?_, ?_⟩
              · rw [split]
                rfl
              · rw [List.map_cons, List.map_cons, same, sameFirst]
              · rw [isEnd, List.getLast?_cons]
                rfl
            · cases taken
          · rintro ⟨piece, split, same, isEnd⟩
            cases piece with
            | nil => cases same
            | cons first piece =>
                rw [List.cons_append, List.cons.injEq] at split
                rw [List.map_cons, List.map_cons, List.cons.injEq] at same
                obtain ⟨rfl, isText⟩ := split
                rw [if_pos same.1.symm]
                refine inductionHypothesis.mpr ⟨piece, isText, same.2, ?_⟩
                rw [isEnd, List.getLast?_cons]
                rfl

/-- A piece that is equal to a word is not empty, so that the text begins and the piece ends as the
search sees it. -/
theorem exists_cons_of_map_eq {first : Char} {more piece : List Char}
    (same : piece.map foldCase = (first :: more).map foldCase) :
    ∃ c other, piece = c :: other := by
  cases piece with
  | nil => cases same
  | cons c other => exact ⟨c, other, rfl⟩

/-- What the search takes off the front is an occurrence. -/
theorem exists_of_occurrence? {first : Char} {more : List Char} {before : Option Char}
    {text : List Char} {found : Taken Char text}
    (isFound : occurrence? first more before text = some found) :
    ∃ piece, text = piece ++ found.rest ∧ piece.map foldCase = (first :: more).map foldCase ∧
      isBoundary before piece.head? = true ∧
      isBoundary piece.getLast? found.rest.head? = true := by
  unfold occurrence? at isFound
  split at isFound
  · rename_i startsThere
    split at isFound
    · cases isFound
    · rename_i last rest taken
      split at isFound
      · rename_i endsThere
        cases isFound
        obtain ⟨piece, split, same, isEnd⟩ := foldedWord?_eq_some_iff.mp taken
        obtain ⟨c, other, rfl⟩ := exists_cons_of_map_eq same
        rw [List.getLast?_cons, Option.getD_some] at isEnd
        refine ⟨c :: other, split, same, ?_, ?_⟩
        · rw [split] at startsThere
          exact startsThere
        · rw [List.getLast?_cons, ← isEnd]
          exact endsThere
      · cases isFound
  · cases isFound

/-- The search takes an occurrence off the front exactly if there is one. -/
theorem isSome_occurrence?_iff {first : Char} {more : List Char} {before : Option Char}
    {text : List Char} :
    (occurrence? first more before text).isSome = true ↔
      ∃ piece after, text = piece ++ after ∧
        piece.map foldCase = (first :: more).map foldCase ∧
        isBoundary before piece.head? = true ∧ isBoundary piece.getLast? after.head? = true := by
  constructor
  · intro isSome
    obtain ⟨found, isFound⟩ := Option.isSome_iff_exists.mp isSome
    obtain ⟨piece, split, apart⟩ := exists_of_occurrence? isFound
    exact ⟨piece, found.rest, split, apart⟩
  · rintro ⟨piece, after, split, same, startsThere, endsThere⟩
    unfold occurrence?
    obtain ⟨c, other, rfl⟩ := exists_cons_of_map_eq same
    have begins : isBoundary before text.head? = true := by
      rw [split]
      exact startsThere
    have taken : foldedWord? first (first :: more) text =
        some ((c :: other).getLast?.getD first, after) :=
      foldedWord?_eq_some_iff.mpr ⟨c :: other, split, same, rfl⟩
    rw [if_pos begins]
    split
    · rename_i none
      rw [none] at taken
      cases taken
    · rename_i last rest found
      rw [found, Option.some.injEq, Prod.mk.injEq] at taken
      obtain ⟨isLast, isRest⟩ := taken
      have endsHere : isBoundary (some last) rest.head? = true := by
        rw [List.getLast?_cons] at isLast endsThere
        rw [isLast, isRest]
        exact endsThere
      rw [if_pos endsHere]
      rfl

/-! ## Anywhere in a text -/

private theorem getLast?_cons_or (c : Char) (front : List Char) (before : Option Char) :
    (c :: front).getLast?.or before = front.getLast?.or (some c) := by
  rw [List.getLast?_cons]
  cases front.getLast? with
  | none => rfl
  | some last => rfl

/-- A count is positive exactly if there is an occurrence. The induction is the search itself: what
is not found at the front is looked for behind the first character. -/
theorem countFrom_pos_iff {first : Char} {more : List Char} {before : Option Char}
    {text : List Char} :
    0 < countFrom first more before text ↔
      ∃ front piece after, text = front ++ piece ++ after ∧
        piece.map foldCase = (first :: more).map foldCase ∧
        isBoundary (front.getLast?.or before) piece.head? = true ∧
        isBoundary piece.getLast? after.head? = true := by
  induction before, text using countFrom.induct first more with
  | case1 before =>
      rw [countFrom]
      constructor
      · intro positive
        cases positive
      · rintro ⟨front, piece, after, split, same, _⟩
        rw [List.append_assoc] at split
        rw [(List.append_eq_nil_iff.mp (List.append_eq_nil_iff.mp split.symm).2).1] at same
        cases same
  | case2 before c text found isFound inductionHypothesis =>
      have isFront := isSome_occurrence?_iff.mp (Option.isSome_iff_exists.mpr ⟨found, isFound⟩)
      obtain ⟨piece, after, split, same, startsThere, endsThere⟩ := isFront
      rw [countFrom, isFound]
      constructor
      · intro _
        exact ⟨[], piece, after, split, same, startsThere, endsThere⟩
      · intro _
        exact Nat.add_pos_left Nat.one_pos _
  | case3 before c text notFound inductionHypothesis =>
      rw [countFrom, notFound]
      rw [inductionHypothesis]
      constructor
      · rintro ⟨front, piece, after, split, same, startsThere, endsThere⟩
        refine ⟨c :: front, piece, after, ?_, same, ?_, endsThere⟩
        · rw [split]
          rfl
        · rw [getLast?_cons_or]
          exact startsThere
      · rintro ⟨front, piece, after, split, same, startsThere, endsThere⟩
        cases front with
        | nil =>
            have isFront : (occurrence? first more before (c :: text)).isSome = true :=
              isSome_occurrence?_iff.mpr ⟨piece, after, split, same, startsThere, endsThere⟩
            rw [notFound] at isFront
            cases isFront
        | cons other front =>
            rw [List.cons_append, List.cons_append, List.cons.injEq] at split
            obtain ⟨rfl, isText⟩ := split
            refine ⟨front, piece, after, isText, same, ?_, endsThere⟩
            rw [getLast?_cons_or] at startsThere
            exact startsThere

/-- **A word is counted exactly if it occurs.** -/
theorem occurrences_pos_iff (text word : String) :
    0 < occurrences text word ↔ word ≠ "" ∧ OccursApart text.toList word.toList := by
  unfold occurrences
  cases letters : word.toList with
  | nil =>
      have isEmpty : word = "" := String.toList_inj.mp letters
      simp [isEmpty]
  | cons first more =>
      have notEmpty : word ≠ "" := by
        rintro rfl
        cases letters
      show 0 < countFrom first more none text.toList ↔ _
      rw [countFrom_pos_iff]
      simp only [Option.or_none, notEmpty, ne_eq, not_false_eq_true, true_and]
      exact Iff.rfl

end WebCompat.Text
