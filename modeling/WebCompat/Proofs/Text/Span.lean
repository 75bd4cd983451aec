import Mathlib.Data.List.DropRight
import WebCompat.Proofs.Text.Scan
import WebCompat.Text.Span

/-!
Words as pieces of their line: every span is a longest run of characters of the class, and its
offsets are those of the run.
-/

namespace WebCompat.Text

/-! ## Offsets -/

theorem byteLength_append (front back : List Char) :
    byteLength (front ++ back) = byteLength front + byteLength back := by
  induction front with
  | nil => simp [byteLength]
  | cons c front inductionHypothesis =>
      rw [List.cons_append, byteLength, byteLength, inductionHypothesis, Nat.add_assoc]

theorem byteLength_pos {text : List Char} (notEmpty : text ≠ []) : 0 < byteLength text := by
  cases text with
  | nil => exact absurd rfl notEmpty
  | cons c text => exact Nat.add_pos_left c.utf8Size_pos _

/-- Of two fronts of a text, the one with fewer bytes has fewer characters. -/
theorem length_le_of_byteLength_le {front back other rest : List Char}
    (sameText : front ++ back = other ++ rest)
    (fewerBytes : byteLength front ≤ byteLength other) : front.length ≤ other.length := by
  apply Nat.not_lt.mp
  intro longer
  rcases List.append_eq_append_iff.mp sameText with ⟨piece, isOther, _⟩ | ⟨piece, isFront, _⟩
  · rw [isOther, List.length_append] at longer
    omega
  · have notEmpty : piece ≠ [] := by
      rintro rfl
      rw [isFront, List.append_nil] at longer
      exact Nat.lt_irrefl _ longer
    have more := byteLength_pos notEmpty
    rw [isFront, byteLength_append] at fewerBytes
    omega

/-! ## Longest runs -/

/-- A piece of a text that is a word there: it is not empty, its characters are of the class, and
the characters directly around it are not. -/
structure IsWord (inWord : Char → Bool) (before word after : List Char) : Prop where
  notEmpty : word ≠ []
  inClass : ∀ c ∈ word, inWord c = true
  startsThere : ∀ c ∈ before.getLast?, inWord c = false
  endsThere : ∀ c ∈ after.head?, inWord c = false

/-- The front of a text that begins with a character of the class. -/
theorem isWord_takeWhile {inWord : Char → Bool} {c : Char} (starts : inWord c = true)
    (text : List Char) :
    IsWord inWord [] (c :: text.takeWhile inWord) (text.dropWhile inWord) where
  notEmpty := List.cons_ne_nil c _
  inClass := by
    intro other member
    rcases List.mem_cons.mp member with rfl | later
    · exact starts
    · exact List.all_eq_true.mp List.all_takeWhile other later
  startsThere := by
    intro other member
    exact nomatch member
  endsThere := by
    intro other member
    have stops := List.head?_dropWhile_not inWord text
    rw [Option.mem_def.mp member] at stops
    exact stops

/-- The longest run of a class at the end of a text. -/
theorem exists_run_at_end (inClass : Char → Bool) (text : List Char) :
    ∃ before run, text = before ++ run ∧ (∀ c ∈ run, inClass c = true) ∧
      ∀ c ∈ before.getLast?, inClass c = false := by
  refine ⟨text.rdropWhile inClass, text.rtakeWhile inClass, ?_, ?_, ?_⟩
  · exact List.rdropWhile_append_rtakeWhile.symm
  · exact fun c => List.mem_rtakeWhile_imp
  · intro c isLast
    obtain ⟨front, isFront⟩ := List.getLast?_eq_some_iff.mp isLast
    have notEmpty : text.rdropWhile inClass ≠ [] := by simp [isFront]
    have outside := List.rdropWhile_last_not inClass text notEmpty
    simpa [isFront] using outside

/-- A word stays one behind more text, if there is some text before it or if the new text does not
end with a character of the class. -/
theorem IsWord.append {inWord : Char → Bool} {before word after : List Char}
    (isWord : IsWord inWord before word after) (front : List Char)
    (separate : before = [] → ∀ c ∈ front.getLast?, inWord c = false) :
    IsWord inWord (front ++ before) word after where
  notEmpty := isWord.notEmpty
  inClass := isWord.inClass
  endsThere := isWord.endsThere
  startsThere := by
    intro c member
    cases before with
    | nil =>
        rw [List.append_nil] at member
        exact separate rfl c member
    | cons other before =>
        have sameEnd : (front ++ other :: before).getLast? = (other :: before).getLast? := by
          rw [List.getLast?_append, List.getLast?_cons]
          rfl
        rw [sameEnd] at member
        exact isWord.startsThere c member

/-- Every span in a text is one of its words, and the offsets are those of the word. -/
theorem exists_of_mem_spansFrom {inWord : Char → Bool} {offset : Nat} {text : List Char}
    {span : Span} (member : span ∈ spansFrom inWord offset text) :
    ∃ before after,
      text = before ++ span.word.toList ++ after ∧
        IsWord inWord before span.word.toList after ∧
        span.start = offset + byteLength before ∧
        span.stop = offset + byteLength (before ++ span.word.toList) := by
  induction offset, text using spansFrom.induct inWord with
  | case1 offset =>
      rw [spansFrom] at member
      exact absurd member List.not_mem_nil
  | case2 offset c text starts word stop inductionHypothesis =>
      have run := isWord_takeWhile starts text
      have split : c :: text = word ++ text.dropWhile inWord := by
        simp only [word, List.cons_append, List.takeWhile_append_dropWhile]
      rw [spansFrom, if_pos starts] at member
      rcases List.mem_cons.mp member with isFirst | later
      · refine ⟨[], text.dropWhile inWord, ?_, ?_, ?_, ?_⟩
        all_goals rw [isFirst]
        · rw [String.toList_ofList]
          exact split
        · rw [String.toList_ofList]
          exact run
        · rfl
        · rw [String.toList_ofList]
          rfl
      · obtain ⟨before, after, rest, isWord, start, stops⟩ := inductionHypothesis later
        -- What follows a longest run does not begin with a character of the class.
        have gap : before ≠ [] := by
          intro none
          subst none
          obtain ⟨first, letters, shape⟩ := List.exists_cons_of_ne_nil isWord.notEmpty
          have ends := run.endsThere first (by rw [rest, shape]; rfl)
          have begins := isWord.inClass first (by rw [shape]; exact List.mem_cons_self)
          rw [begins] at ends
          exact nomatch ends
        refine ⟨word ++ before, after, ?_, ?_, ?_, ?_⟩
        · rw [split, rest]
          simp only [List.append_assoc]
        · exact isWord.append word fun none => absurd none gap
        · rw [start, byteLength_append]
          simp only [stop, Nat.add_assoc]
        · rw [stops, List.append_assoc, byteLength_append word]
          simp only [stop, Nat.add_assoc]
  | case3 offset c text outside inductionHypothesis =>
      rw [spansFrom, if_neg outside] at member
      obtain ⟨before, after, rest, isWord, start, stops⟩ := inductionHypothesis member
      refine ⟨c :: before, after, ?_, ?_, ?_, ?_⟩
      · rw [rest]
        rfl
      · refine isWord.append [c] fun _ other isOther => ?_
        have isC : other = c := (Option.some.inj isOther).symm
        rw [isC]
        exact Bool.eq_false_iff.mpr outside
      · rw [start, byteLength, Nat.add_assoc]
      · rw [stops, List.cons_append, byteLength, Nat.add_assoc]

/-- A word of a line, between the characters before and after it, as a span. -/
structure IsSpanOf (inWord : Char → Bool) (line : String) (span : Span)
    (before after : List Char) : Prop where
  split : line.toList = before ++ span.word.toList ++ after
  isWord : IsWord inWord before span.word.toList after
  start : span.start = byteLength before
  stop : span.stop = byteLength (before ++ span.word.toList)

/-- A span that is found at a column is a word of the line that reaches up to the column. -/
theorem exists_isSpanOf_of_spanAt? {inWord : Char → Bool} {line : String} {column : Nat}
    {span : Span} (found : spanAt? inWord line column = some span) :
    ∃ before after, IsSpanOf inWord line span before after ∧ before.length ≤ column ∧
      column ≤ before.length + span.word.length := by
  unfold spanAt? at found
  split at found
  · rename_i inLine
    have touches := List.find?_some found
    obtain ⟨before, after, split, isWord, start, stop⟩ :=
      exists_of_mem_spansFrom (List.mem_of_find?_eq_some found)
    rw [Nat.zero_add] at start stop
    simp only [Span.touches, Bool.and_eq_true, decide_eq_true_eq, start, stop] at touches
    have cut : line.toList.take column ++ line.toList.drop column = line.toList :=
      List.take_append_drop column line.toList
    have taken : (line.toList.take column).length = column := by
      rw [List.length_take, String.length_toList]
      exact Nat.min_eq_left inLine
    have fromStart := length_le_of_byteLength_le
      (show before ++ (span.word.toList ++ after) = _ ++ _ by
        rw [cut, split, List.append_assoc]) touches.1
    have toStop := length_le_of_byteLength_le (cut.trans split) touches.2
    rw [taken] at fromStart toStop
    rw [List.length_append, String.length_toList] at toStop
    exact ⟨before, after, ⟨split, isWord, start, stop⟩, fromStart, toStop⟩
  · exact nomatch found

/-- Whether a text is the word of a line that a column stands in, or at one of its ends. -/
def IsWordAt (inWord : Char → Bool) (line : String) (column : Nat) (word : String) : Prop :=
  ∃ before after,
    line.toList = before ++ word.toList ++ after ∧ IsWord inWord before word.toList after ∧
      before.length ≤ column ∧ column ≤ before.length + word.length

theorem isWordAt_of_spanAt? {inWord : Char → Bool} {line : String} {column : Nat} {span : Span}
    (found : spanAt? inWord line column = some span) :
    IsWordAt inWord line column span.word := by
  obtain ⟨before, after, isSpan, fromStart, toStop⟩ := exists_isSpanOf_of_spanAt? found
  exact ⟨before, after, isSpan.split, isSpan.isWord, fromStart, toStop⟩

/-! ## Every word -/

/-- A word behind the front of a text is a word of what is behind the front. -/
theorem IsWord.of_append {inWord : Char → Bool} {front before word after : List Char}
    (isWord : IsWord inWord (front ++ before) word after) : IsWord inWord before word after where
  notEmpty := isWord.notEmpty
  inClass := isWord.inClass
  endsThere := isWord.endsThere
  startsThere := by
    intro c member
    apply isWord.startsThere
    rw [List.getLast?_append, Option.mem_def.mp member]
    rfl

/-- The run at the front of a text ends before a character that is not of the class. -/
theorem run_append {inWord : Char → Bool} {before : List Char} (notEmpty : before ≠ [])
    (ends : ∀ c ∈ before.getLast?, inWord c = false) (rest : List Char) :
    (before ++ rest).takeWhile inWord = before.takeWhile inWord ∧
      (before ++ rest).dropWhile inWord = before.dropWhile inWord ++ rest := by
  have someLeft : before.dropWhile inWord ≠ [] := by
    intro nothingLeft
    have isFront := List.takeWhile_append_dropWhile (p := inWord) (l := before)
    rw [nothingLeft, List.append_nil] at isFront
    have allInside : ∀ c ∈ before, inWord c = true := by
      rw [← isFront]
      exact List.all_eq_true.mp List.all_takeWhile
    have lastInside := allInside _ (List.getLast_mem notEmpty)
    rw [ends _ (List.getLast?_eq_some_getLast notEmpty)] at lastInside
    cases lastInside
  have shorter : (before.takeWhile inWord).length ≠ before.length := by
    have parts := congrArg List.length
      (List.takeWhile_append_dropWhile (p := inWord) (l := before))
    have isPositive := List.length_pos_iff.mpr someLeft
    rw [List.length_append] at parts
    omega
  rw [List.takeWhile_append, if_neg shorter, List.dropWhile_append]
  simp [someLeft]

/-- Every word of a text is among its spans. -/
theorem exists_mem_spansFrom {inWord : Char → Bool} {offset : Nat}
    {text before word after : List Char} (split : text = before ++ word ++ after)
    (isWord : IsWord inWord before word after) :
    ∃ span ∈ spansFrom inWord offset text,
      span.start = offset + byteLength before ∧
        span.stop = offset + byteLength (before ++ word) := by
  induction offset, text using spansFrom.induct inWord generalizing before with
  | case1 offset =>
      have isEmpty : word = [] := by simp_all
      exact absurd isEmpty isWord.notEmpty
  | case2 offset c text starts run stop =>
      rename_i inductionHypothesis
      rw [spansFrom, if_pos starts]
      have isRun : (c :: text).takeWhile inWord = c :: text.takeWhile inWord :=
        List.takeWhile_cons_of_pos starts
      have isRest : (c :: text).dropWhile inWord = text.dropWhile inWord :=
        List.dropWhile_cons_of_pos starts
      rw [split, List.append_assoc] at isRun isRest
      by_cases isFirst : before = []
      · rw [isFirst, List.nil_append] at isRun
        rw [takeWhile_append_of_ends isWord.inClass isWord.endsThere] at isRun
        refine ⟨_, List.mem_cons_self, ?_, ?_⟩
        · rw [isFirst]
          rfl
        · rw [isFirst, isRun]
          rfl
      · obtain ⟨sameRun, sameRest⟩ := run_append isFirst isWord.startsThere (word ++ after)
        rw [sameRun] at isRun
        rw [sameRest] at isRest
        have parts : before = run ++ before.dropWhile inWord :=
          (List.takeWhile_append_dropWhile.symm.trans (congrArg (· ++ _) isRun))
        generalize before.dropWhile inWord = later at isRest parts
        subst parts
        obtain ⟨span, member, start, stops⟩ :=
          inductionHypothesis (isRest.symm.trans (List.append_assoc _ _ _).symm) isWord.of_append
        refine ⟨span, List.mem_cons_of_mem _ member, ?_, ?_⟩
        · rw [start, byteLength_append run, ← Nat.add_assoc]
        · rw [stops, List.append_assoc, byteLength_append run, ← Nat.add_assoc]
  | case3 offset c text outside inductionHypothesis =>
      rw [spansFrom, if_neg outside]
      cases before with
      | nil =>
          obtain ⟨first, letters, rfl⟩ := List.exists_cons_of_ne_nil isWord.notEmpty
          cases split
          exact absurd (isWord.inClass c List.mem_cons_self) outside
      | cons first others =>
          cases split
          have isLater : IsWord inWord ([c] ++ others) word after := isWord
          obtain ⟨span, member, start, stops⟩ := inductionHypothesis rfl isLater.of_append
          refine ⟨span, member, ?_, ?_⟩
          · rw [start, byteLength, Nat.add_assoc]
          · rw [stops, List.cons_append, byteLength, Nat.add_assoc]

private theorem byteLength_take_le (text : List Char) {fewer more : Nat} (le : fewer ≤ more) :
    byteLength (text.take fewer) ≤ byteLength (text.take more) := by
  obtain ⟨between, isMore⟩ := List.take_prefix_take_left le (l := text)
  rw [← isMore, byteLength_append]
  exact Nat.le_add_right _ _

/-- **There is a span at a column exactly if a word is there.** -/
theorem exists_spanAt?_iff {inWord : Char → Bool} {line : String} {column : Nat} :
    (∃ span, spanAt? inWord line column = some span) ↔
      ∃ word, IsWordAt inWord line column word := by
  constructor
  · rintro ⟨span, found⟩
    exact ⟨span.word, isWordAt_of_spanAt? found⟩
  · rintro ⟨word, before, after, split, isWord, fromStart, toStop⟩
    have lengths := congrArg List.length split
    simp only [List.length_append, String.length_toList] at lengths
    have startsBefore := byteLength_take_le line.toList fromStart
    have stopsBehind := byteLength_take_le line.toList toStop
    have isFront : line.toList.take before.length = before := by
      rw [split, List.append_assoc, List.take_left]
    have isFrontWithWord : line.toList.take (before.length + word.length) =
        before ++ word.toList := by
      rw [split, ← String.length_toList, ← List.length_append, List.take_left]
    rw [isFront] at startsBefore
    rw [isFrontWithWord] at stopsBehind
    obtain ⟨span, member, start, stop⟩ :
        ∃ span ∈ spansFrom inWord 0 line.toList, span.start = 0 + byteLength before ∧
          span.stop = 0 + byteLength (before ++ word.toList) := exists_mem_spansFrom split isWord
    unfold spanAt?
    rw [if_pos (by omega), ← Option.isSome_iff_exists, List.find?_isSome]
    refine ⟨span, member, ?_⟩
    simp only [Span.touches, Bool.and_eq_true, decide_eq_true_eq]
    omega

end WebCompat.Text
