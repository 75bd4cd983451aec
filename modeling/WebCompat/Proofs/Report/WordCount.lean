import Mathlib.Data.Set.Card
import WebCompat.Proofs.Report.Cursor
import WebCompat.Proofs.Text.CaseFold
import WebCompat.Proofs.Text.Lines
import WebCompat.Proofs.Text.Occurrence
import WebCompat.Proofs.Text.Runs

/-!
The count of a word of letters, digits and low lines. What is equal to such a word up to case is
made of word characters, so that with a word boundary at both ends it is a longest run of them. So
the search, which goes through a text from occurrence to occurrence, counts the runs that are equal
to the word, and neither skips one nor finds anything else.

Owns: the search as a count of runs; the runs of a text by its lines; and the number of the runs.
-/

namespace WebCompat.Text

variable {word : List Char}

/-! ## Occurrences of a plain word -/

/-- Whether a run is equal to a word up to case. -/
def isSameWord (word : List Char) (run : String) : Bool :=
  run.toList.map foldCase == word.map foldCase

private theorem isSameWord_ofList_iff {piece : List Char} :
    isSameWord word (String.ofList piece) = true ↔ piece.map foldCase = word.map foldCase := by
  rw [isSameWord, beq_iff_eq, String.toList_ofList]

/-- What is equal to a plain word up to case is made of word characters. -/
theorem isWordChar_of_same {piece : List Char} (plain : IsPlainWord word)
    (same : piece.map foldCase = word.map foldCase) : ∀ c ∈ piece, isWordChar c = true := by
  intro c member
  have folded : foldCase c ∈ word.map foldCase := by
    rw [← same]
    exact List.mem_map_of_mem member
  obtain ⟨w, isIn, sameLetter⟩ := List.mem_map.mp folded
  exact isWordChar_of_foldCase_eq (plain.2 w isIn) sameLetter.symm

private theorem ne_nil_of_same {piece : List Char} (plain : IsPlainWord word)
    (same : piece.map foldCase = word.map foldCase) : piece ≠ [] := by
  rintro rfl
  exact plain.1 (List.map_eq_nil_iff.mp same.symm)

private theorem any_head?_of_forall {piece : List Char} (notEmpty : piece ≠ [])
    (inWord : ∀ c ∈ piece, isWordChar c = true) : piece.head?.any isWordChar = true := by
  rw [List.head?_eq_some_head notEmpty]
  exact inWord _ (List.head_mem notEmpty)

private theorem any_getLast?_of_forall {piece : List Char} (notEmpty : piece ≠ [])
    (inWord : ∀ c ∈ piece, isWordChar c = true) : piece.getLast?.any isWordChar = true := by
  rw [List.getLast?_eq_some_getLast notEmpty]
  exact inWord _ (List.getLast_mem notEmpty)

private theorem isBoundary_before_iff {before after : Option Char}
    (inside : after.any isWordChar = true) :
    isBoundary before after = true ↔ before.any isWordChar = false := by
  rw [isBoundary, inside]
  simp

private theorem isBoundary_after_iff {before after : Option Char}
    (inside : before.any isWordChar = true) :
    isBoundary before after = true ↔ after.any isWordChar = false := by
  rw [isBoundary, inside]
  simp

/-- An occurrence of a plain word is the run that the text begins with, and neither goes on. -/
theorem runs_of_occurrence? {first : Char} {more : List Char} (plain : IsPlainWord (first :: more))
    {before : Option Char} {text : List Char} {found : Taken Char text}
    (isFound : occurrence? first more before text = some found) :
    before.any isWordChar = false ∧ found.rest.head?.any isWordChar = false ∧
      ∃ run, isSameWord (first :: more) run = true ∧
        runs isWordChar text = run :: runs isWordChar found.rest := by
  obtain ⟨piece, split, same, startsThere, endsThere⟩ := exists_of_occurrence? isFound
  have notEmpty := ne_nil_of_same plain same
  have inWord := isWordChar_of_same plain same
  have outsideBefore : before.any isWordChar = false :=
    (isBoundary_before_iff (any_head?_of_forall notEmpty inWord)).mp startsThere
  have outsideAfter : found.rest.head?.any isWordChar = false :=
    (isBoundary_after_iff (any_getLast?_of_forall notEmpty inWord)).mp endsThere
  have ends : ∀ other ∈ found.rest.head?, isWordChar other = false := by
    intro other isHead
    rw [Option.mem_def.mp isHead] at outsideAfter
    exact outsideAfter
  refine ⟨outsideBefore, outsideAfter, String.ofList piece, isSameWord_ofList_iff.mpr same, ?_⟩
  exact (congrArg (runs isWordChar) split).trans (runs_append_of_ends notEmpty inWord ends)

/-- Where a run begins and no occurrence is found, the run is another word. -/
theorem not_isSameWord_of_occurrence?_eq_none {first : Char} {more : List Char}
    {before : Option Char} {c : Char} {text : List Char} (inside : isWordChar c = true)
    (outsideBefore : before.any isWordChar = false)
    (notFound : occurrence? first more before (c :: text) = none) :
    ¬ isSameWord (first :: more) (String.ofList (c :: text.takeWhile isWordChar)) = true := by
  intro isSame
  have isRun := isWord_takeWhile inside text
  have outsideAfter : (text.dropWhile isWordChar).head?.any isWordChar = false := by
    cases isHead : (text.dropWhile isWordChar).head? with
    | none => rfl
    | some other => exact isRun.endsThere other isHead
  have atFront : (occurrence? first more before (c :: text)).isSome = true := by
    refine isSome_occurrence?_iff.mpr ⟨_, text.dropWhile isWordChar, ?_,
      isSameWord_ofList_iff.mp isSame, ?_, ?_⟩
    · rw [List.cons_append, List.takeWhile_append_dropWhile]
    · exact (isBoundary_before_iff (by exact inside)).mpr outsideBefore
    · exact (isBoundary_after_iff
        (any_getLast?_of_forall isRun.notEmpty isRun.inClass)).mpr outsideAfter
  rw [notFound] at atFront
  cases atFront

/-- Behind a word character the search is inside of a run, of which it counts nothing. -/
def behindRun (before : Option Char) (text : List Char) : List Char :=
  if before.any isWordChar then text.dropWhile isWordChar else text

private theorem behindRun_of_inside {before : Option Char} (inside : before.any isWordChar = true)
    (text : List Char) : behindRun before text = text.dropWhile isWordChar :=
  if_pos inside

private theorem behindRun_of_outside {before : Option Char}
    (outside : before.any isWordChar = false) (text : List Char) : behindRun before text = text :=
  if_neg (Bool.eq_false_iff.mp outside)

/-- Where no word goes on, nothing of a run is left. -/
theorem behindRun_of_ends {text : List Char} (ends : text.head?.any isWordChar = false)
    (before : Option Char) : behindRun before text = text := by
  unfold behindRun
  split
  · cases text with
    | nil => rfl
    | cons c text => exact List.dropWhile_cons_of_neg (Bool.eq_false_iff.mp ends)
  · rfl

/-- **The search counts runs.** The induction is the search itself. An occurrence that it finds is
the run at the front; where it finds none, the run at the front is another word, or the search is
inside of a run or outside of all. -/
theorem countFrom_eq_countP {first : Char} {more : List Char}
    (plain : IsPlainWord (first :: more)) (before : Option Char) (text : List Char) :
    countFrom first more before text =
      (runs isWordChar (behindRun before text)).countP (isSameWord (first :: more)) := by
  induction before, text using countFrom.induct first more with
  | case1 before =>
      rw [countFrom, behindRun_of_ends rfl, runs_nil, List.countP_nil]
  | case2 before c text found isFound inductionHypothesis =>
      obtain ⟨outsideBefore, outsideAfter, run, isSame, atFront⟩ :=
        runs_of_occurrence? plain isFound
      rw [countFrom, isFound]
      simp only
      rw [inductionHypothesis, behindRun_of_ends outsideAfter, behindRun_of_outside outsideBefore,
        atFront, List.countP_cons_of_pos isSame, Nat.add_comm]
  | case3 before c text notFound inductionHypothesis =>
      rw [countFrom, notFound]
      simp only
      rw [inductionHypothesis]
      cases inside : isWordChar c with
      | false =>
          rw [behindRun_of_outside (by exact inside), behindRun_of_ends (by exact inside),
            runs_cons_of_outside inside]
      | true =>
          rw [behindRun_of_inside (by exact inside)]
          cases insideBefore : before.any isWordChar with
          | true => rw [behindRun_of_inside insideBefore, List.dropWhile_cons_of_pos inside]
          | false =>
              have differs := not_isSameWord_of_occurrence?_eq_none inside insideBefore notFound
              rw [behindRun_of_outside insideBefore, runs_cons_of_inside inside,
                List.countP_cons_of_neg differs]

/-- A plain word is counted once for each run that is equal to it. -/
theorem occurrences_eq_countP {word : String} (plain : IsPlainWord word.toList) (text : String) :
    occurrences text word = (runs isWordChar text.toList).countP (isSameWord word.toList) := by
  unfold occurrences
  split
  · rename_i isEmpty
    exact absurd isEmpty plain.1
  · rename_i first more letters
    rw [letters] at plain
    rw [letters, countFrom_eq_countP plain]
    rfl

/-! ## Lines -/

/-- A carriage return is in no run, so that none is lost with it. -/
theorem runs_reverse_dropReturn (line : List Char) :
    runs isWordChar (dropReturn line).reverse = runs isWordChar line.reverse := by
  unfold dropReturn
  split
  · rename_i rest
    rw [List.reverse_cons, runs_append_cons (by decide), runs_nil, List.append_nil]
  · rfl

/-- The runs of a text are those of its lines. The induction is on what is not read yet; a line
break is in no run. -/
theorem runs_linesAfter (current rest : List Char) :
    (linesAfter current rest).flatMap (runs isWordChar) =
      runs isWordChar (current.reverse ++ rest) := by
  induction rest generalizing current with
  | nil =>
      unfold linesAfter
      cases current with
      | nil => rw [List.reverse_nil, List.append_nil, runs_nil]; rfl
      | cons c current => simp
  | cons c rest inductionHypothesis =>
      unfold linesAfter
      split
      · rename_i isBreak
        subst isBreak
        rw [List.flatMap_cons, inductionHypothesis, runs_reverse_dropReturn,
          runs_append_cons (by decide)]
        rfl
      · rw [inductionHypothesis, List.reverse_cons, List.append_assoc, List.singleton_append]

/-- The count of a plain word is the sum of its counts in the lines. -/
theorem occurrences_eq_sum_lines {word : String} (plain : IsPlainWord word.toList)
    (text : String) :
    occurrences text word = ((lines text).map fun line => occurrences line word).sum := by
  have ofLines := runs_linesAfter [] text.toList
  rw [List.reverse_nil, List.nil_append] at ofLines
  rw [occurrences_eq_countP plain, ← ofLines, List.countP_flatMap, lines, List.map_map]
  congr 1
  apply List.map_congr_left
  intro line _
  show _ = occurrences (String.ofList line) word
  rw [occurrences_eq_countP plain, String.toList_ofList]
  rfl

/-! ## Numbers of runs -/

/-- The spans of a line are its words. -/
theorem mem_spans_iff {inClass : Char → Bool} {line : String} {span : Span} :
    span ∈ spans inClass line ↔ ∃ before after, IsSpanOf inClass line span before after := by
  constructor
  · intro member
    obtain ⟨before, after, split, isWord, start, stop⟩ := exists_of_mem_spansFrom member
    rw [Nat.zero_add] at start stop
    exact ⟨before, after, split, isWord, start, stop⟩
  · rintro ⟨before, after, isSpan⟩
    obtain ⟨other, member, start, stop⟩ :
        ∃ other ∈ spansFrom inClass 0 line.toList, other.start = 0 + byteLength before ∧
          other.stop = 0 + byteLength (before ++ span.word.toList) :=
      exists_mem_spansFrom isSpan.split isSpan.isWord
    obtain ⟨front, back, otherSplit, isOther, otherStart, otherStop⟩ :=
      exists_of_mem_spansFrom member
    rw [Nat.zero_add] at otherStart otherStop
    -- Two words that start at the same byte start at the same column.
    have sameBytes : byteLength front = byteLength before := by omega
    have sameText :
        before ++ (span.word.toList ++ after) = front ++ (other.word.toList ++ back) := by
      rw [← List.append_assoc, ← List.append_assoc, ← isSpan.split, otherSplit]
    have fewer := length_le_of_byteLength_le sameText (Nat.le_of_eq sameBytes.symm)
    have more := length_le_of_byteLength_le sameText.symm (Nat.le_of_eq sameBytes)
    obtain ⟨_, same, _⟩ := isSpan.unique ⟨otherSplit, isOther, otherStart, otherStop⟩
      (Nat.le_refl _) (Nat.le_add_right _ _) more (Nat.le_trans fewer (Nat.le_add_right _ _))
    rw [same]
    exact member

/-- Counting in the list of runs is counting the words of a text. -/
theorem countP_runs_eq_ncard (isCounted : String → Bool) (text : String) :
    (runs isWordChar text.toList).countP isCounted =
      Set.ncard {span : Span | (∃ before after, IsSpanOf isWordChar text span before after) ∧
        isCounted span.word = true} := by
  have isList : {span : Span | (∃ before after, IsSpanOf isWordChar text span before after) ∧
      isCounted span.word = true} =
        ((spans isWordChar text).filter (isCounted ∘ Span.word)).toFinset := by
    ext span
    simp [mem_spans_iff]
  have once := (nodup_spans isWordChar text).filter (isCounted ∘ Span.word)
  rw [isList, Set.ncard_coe_finset, List.toFinset_card_of_nodup once, runs, List.countP_map,
    List.countP_eq_length_filter]
  rfl

theorem isSameWord_iff {run : String} :
    isSameWord word run = true ↔
      List.Forall₂ (fun c w => foldCase c = foldCase w) run.toList word := by
  rw [isSameWord, beq_iff_eq, ← List.forall₂_eq_eq_eq, List.forall₂_map_left_iff,
    List.forall₂_map_right_iff]

/-- **The count of a plain word** is the number of the longest runs of word characters that have as
many characters as the word and are equal to it character by character up to case. It does not
depend on the case of the word, and it is the sum of the counts in the lines. Of the characters
beyond ASCII, only the long s and the Kelvin sign are equal to one of the word. -/
theorem occurrences_count_runs {word : String} (plain : IsPlainWord word.toList)
    (text : String) :
    occurrences text word =
        Set.ncard {span : Span | (∃ before after, IsSpanOf isWordChar text span before after) ∧
          List.Forall₂ (fun c w => foldCase c = foldCase w) span.word.toList word.toList} ∧
      (∀ c, ∀ w ∈ word.toList, foldCase c = foldCase w ↔
        c.toNat < 0x80 ∧ c.toLower = w.toLower ∨ c = 'ſ' ∧ w.toLower = 's' ∨
          c = '\u212A' ∧ w.toLower = 'k') ∧
      (∀ other : String, other.toList.map Char.toLower = word.toList.map Char.toLower →
        occurrences text other = occurrences text word) ∧
      occurrences text word = ((lines text).map fun line => occurrences line word).sum := by
  refine ⟨?_, ?_, ?_, occurrences_eq_sum_lines plain text⟩
  · rw [occurrences_eq_countP plain, countP_runs_eq_ncard]
    simp only [isSameWord_iff]
  · intro c w member
    exact foldCase_eq_iff_of_ascii (toNat_lt_of_isPlain (plain.2 w member))
  · intro other sameLetters
    obtain ⟨otherPlain, sameFolded⟩ := isPlainWord_of_toLower plain sameLetters
    have sameTest : isSameWord other.toList = isSameWord word.toList := by
      funext run
      rw [isSameWord, isSameWord, sameFolded]
    rw [occurrences_eq_countP plain, occurrences_eq_countP otherPlain, sameTest]

/-- A word with partners beyond ASCII, next to longer words. -/
theorem occurrences_of_sink :
    IsPlainWord "sinK".toList ∧
      occurrences "ſin\u212A SINK\nsinks _sink sink" "sinK" = 3 ∧
      occurrences "ſin\u212A SINK\nsinks _sink sink" "sinK" =
        Set.ncard {span : Span |
          (∃ before after,
            IsSpanOf isWordChar "ſin\u212A SINK\nsinks _sink sink" span before after) ∧
          List.Forall₂ (fun c w => foldCase c = foldCase w) span.word.toList "sinK".toList} := by
  have plain : IsPlainWord "sinK".toList := by
    refine ⟨?_, ?_⟩
    · decide
    · exact List.all_eq_true.mp (by decide)
  exact ⟨plain, by decide +kernel, (occurrences_count_runs plain _).1⟩

end WebCompat.Text
