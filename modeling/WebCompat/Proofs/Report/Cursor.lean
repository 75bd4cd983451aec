import WebCompat.Proofs.Text.Span
import WebCompat.Proofs.Text.Utf8
import WebCompat.Report.Cursor

/-!
The word under a cursor, told by the characters next to the cursor. The words of a line are looked
through from its start, and compared by byte offsets. What is found depends on the two characters
around the column only: if one of them belongs to a word, it is the word that this character is in.

Owns: the words of a line through a character and at a column; that there is one of them at most; and
which span is found at a column.
-/

namespace WebCompat

namespace Text

/-! ## Words through a character -/

section Words

variable {inWord : Char → Bool} {text before word after front other back : List Char}
  {place column : Nat}

/-- Every character of a class is in a word. -/
theorem exists_isWord_through {c : Char} (isThere : text[place]? = some c)
    (inside : inWord c = true) :
    ∃ before word after, text = before ++ word ++ after ∧ IsWord inWord before word after ∧
      before.length ≤ place ∧ place < before.length + word.length := by
  have inText : place < text.length := (List.getElem?_eq_some_iff.mp isThere).1
  obtain ⟨before, run, isFront, inRun, startsThere⟩ := exists_run_at_end inWord (text.take place)
  have isWord := isWord_takeWhile inside (text.drop (place + 1))
  have lengths := congrArg List.length isFront
  rw [List.length_append, List.length_take_of_le (Nat.le_of_lt inText)] at lengths
  refine ⟨before, run ++ c :: (text.drop (place + 1)).takeWhile inWord,
    (text.drop (place + 1)).dropWhile inWord, ?_, ⟨by simp, ?_, startsThere, isWord.endsThere⟩, by omega,
    ?_⟩
  · calc text = text.take place ++ text.drop place := (List.take_append_drop place text).symm
      _ = (before ++ run) ++ c :: text.drop (place + 1) := by
          rw [isFront, List.drop_eq_getElem?_toList_append, isThere]
          rfl
      _ = before ++ (run ++ c :: (text.drop (place + 1)).takeWhile inWord) ++
            (text.drop (place + 1)).dropWhile inWord := by
          rw [← List.takeWhile_append_dropWhile (p := inWord) (l := text.drop (place + 1))]
          simp
  · intro other member
    rcases List.mem_append.mp member with inFront | later
    · exact inRun other inFront
    · exact isWord.inClass other later
  · rw [List.length_append, List.length_cons]
    omega

/-- In a word are characters of its class. -/
theorem IsWord.exists_getElem? (isWord : IsWord inWord before word after)
    (fromStart : before.length ≤ place) (toStop : place < before.length + word.length) :
    ∃ c, (before ++ word ++ after)[place]? = some c ∧ inWord c = true := by
  have inside : place - before.length < word.length := by omega
  refine ⟨word[place - before.length], ?_, isWord.inClass _ (List.getElem_mem inside)⟩
  rw [List.append_assoc, List.getElem?_append_right fromStart, List.getElem?_append_left inside,
    List.getElem?_eq_getElem inside]

/-- Of two words at a column, none starts before the other. -/
theorem IsWord.start_le (isWord : IsWord inWord before word after)
    (isOther : IsWord inWord front other back)
    (sameText : before ++ word ++ after = front ++ other ++ back)
    (toStop : column ≤ before.length + word.length) (fromStart : front.length ≤ column) :
    front.length ≤ before.length := by
  apply Nat.not_lt.mp
  intro later
  have notEmpty : front ≠ [] := List.ne_nil_of_length_pos (by omega)
  obtain ⟨start, c, rfl⟩ := (List.eq_nil_or_concat front).resolve_left notEmpty
  rw [List.length_concat] at later fromStart
  -- The character in front of the other word would be in the first one.
  have isThere : (before ++ word ++ after)[start.length]? = some c := by
    rw [sameText]
    simp
  have inFirst : before.length ≤ start.length ∧ start.length < before.length + word.length := by
    omega
  obtain ⟨_, isSame, inside⟩ := isWord.exists_getElem? inFirst.1 inFirst.2
  cases isThere.symm.trans isSame
  rw [isOther.startsThere c (by simp)] at inside
  cases inside

/-- **There is one word at a column at most.** -/
theorem IsWord.unique (isWord : IsWord inWord before word after)
    (isOther : IsWord inWord front other back)
    (sameText : before ++ word ++ after = front ++ other ++ back)
    (fromStart : before.length ≤ column) (toStop : column ≤ before.length + word.length)
    (fromOtherStart : front.length ≤ column) (toOtherStop : column ≤ front.length + other.length) :
    before = front ∧ word = other ∧ after = back := by
  have sameStart : before.length = front.length :=
    Nat.le_antisymm (isOther.start_le isWord sameText.symm toOtherStop fromStart)
      (isWord.start_le isOther sameText toStop fromOtherStart)
  rw [List.append_assoc, List.append_assoc] at sameText
  obtain ⟨sameFront, sameRest⟩ := List.append_inj sameText sameStart
  have sameWord := eq_of_append_eq_append sameRest isWord.inClass isOther.inClass isWord.endsThere
    isOther.endsThere
  rw [sameWord] at sameRest
  exact ⟨sameFront, sameWord, List.append_cancel_left sameRest⟩

end Words

/-! ## Spans at a column -/

section Spans

variable {inWord : Char → Bool} {line : String} {column : Nat} {span other : Span}
  {before after front back : List Char}

theorem IsSpanOf.length_pos (isSpan : IsSpanOf inWord line span before after) :
    0 < span.word.length := by
  rw [← String.length_toList]
  exact List.length_pos_iff.mpr isSpan.isWord.notEmpty

/-- Two spans of words at a column are the same. -/
theorem IsSpanOf.unique (isSpan : IsSpanOf inWord line span before after)
    (isOther : IsSpanOf inWord line other front back)
    (fromStart : before.length ≤ column) (toStop : column ≤ before.length + span.word.length)
    (fromOtherStart : front.length ≤ column)
    (toOtherStop : column ≤ front.length + other.word.length) :
    before = front ∧ span = other ∧ after = back := by
  rw [← String.length_toList] at toStop toOtherStop
  obtain ⟨rfl, sameWord, rfl⟩ := isSpan.isWord.unique isOther.isWord
    (isSpan.split.symm.trans isOther.split) fromStart toStop fromOtherStart toOtherStop
  refine ⟨rfl, ?_, rfl⟩
  obtain ⟨_, _, start, stop⟩ := isSpan
  obtain ⟨_, _, otherStart, otherStop⟩ := isOther
  rw [sameWord, ← otherStop] at stop
  rw [← otherStart] at start
  cases span
  cases other
  cases String.toList_inj.mp sameWord
  cases start
  cases stop
  rfl

/-- **The span at a column** is the word that reaches up to it, or begins at it. -/
theorem spanAt?_eq_some_iff :
    spanAt? inWord line column = some span ↔
      ∃ before after, IsSpanOf inWord line span before after ∧ before.length ≤ column ∧
        column ≤ before.length + span.word.length := by
  constructor
  · exact exists_isSpanOf_of_spanAt?
  · rintro ⟨before, after, isSpan, fromStart, toStop⟩
    obtain ⟨found, isFound⟩ := exists_spanAt?_iff.mpr
      ⟨span.word, before, after, isSpan.split, isSpan.isWord, fromStart, toStop⟩
    obtain ⟨front, back, isOther, fromOtherStart, toOtherStop⟩ := exists_isSpanOf_of_spanAt? isFound
    obtain ⟨_, same, _⟩ := isSpan.unique isOther fromStart toStop fromOtherStart toOtherStop
    rw [isFound, same]

/-- A word reaches up to a column exactly if it has one of the two characters around it. -/
theorem reaches_iff {start length : Nat} (notEmpty : 0 < length) :
    start ≤ column ∧ column ≤ start + length ↔
      ∃ place, (place = column ∨ place + 1 = column) ∧ start ≤ place ∧ place < start + length := by
  constructor
  · rintro ⟨fromStart, toStop⟩
    by_cases inside : column < start + length
    · exact ⟨column, .inl rfl, fromStart, inside⟩
    · exact ⟨column - 1, .inr (by omega), by omega, by omega⟩
  · rintro ⟨place, isNext, fromStart, toStop⟩
    omega

/-- There is no span at a column exactly if no character next to it is in a word. -/
theorem spanAt?_eq_none_iff :
    spanAt? inWord line column = none ↔
      ∀ place, place = column ∨ place + 1 = column →
        ∀ c ∈ line.toList[place]?, inWord c = false := by
  constructor
  · intro isNone place isNext c isThere
    rw [Bool.eq_false_iff]
    intro inside
    obtain ⟨before, word, after, split, isWord, fromStart, toStop⟩ :=
      exists_isWord_through isThere inside
    have reaches := (reaches_iff (List.length_pos_iff.mpr isWord.notEmpty)).mpr
      ⟨place, isNext, fromStart, toStop⟩
    have isWordAt : IsWordAt inWord line column (String.ofList word) := by
      refine ⟨before, after, ?_, ?_, reaches.1, ?_⟩
      · rw [String.toList_ofList, split]
      · rwa [String.toList_ofList]
      · rw [String.length_ofList]
        exact reaches.2
    obtain ⟨span, found⟩ := exists_spanAt?_iff.mpr ⟨_, isWordAt⟩
    rw [isNone] at found
    cases found
  · intro outside
    rw [Option.eq_none_iff_forall_ne_some]
    intro span found
    obtain ⟨before, after, isSpan, reaches⟩ := spanAt?_eq_some_iff.mp found
    obtain ⟨place, isNext, fromStart, toStop⟩ := (reaches_iff isSpan.length_pos).mp reaches
    rw [← String.length_toList] at toStop
    obtain ⟨c, isThere, inside⟩ := isSpan.isWord.exists_getElem? fromStart toStop
    rw [← isSpan.split] at isThere
    rw [outside place isNext c isThere] at inside
    cases inside

end Spans

/-! ## Bytes of a span -/

theorem length_bytes (text : List Char) : (bytes text).length = byteLength text := by
  induction text with
  | nil => rfl
  | cons c text inductionHypothesis =>
      rw [byteLength, ← inductionHypothesis, ← String.length_utf8EncodeChar c]
      exact List.length_append

/-- The offsets of a span cut its word out of the bytes of the line. -/
theorem IsSpanOf.bytes_between {inWord : Char → Bool} {line : String} {span : Span}
    {before after : List Char} (isSpan : IsSpanOf inWord line span before after) :
    span.start < span.stop ∧
      ((stringBytes line).take span.stop).drop span.start = stringBytes span.word := by
  obtain ⟨split, isWord, start, stop⟩ := isSpan
  have isLonger := byteLength_pos isWord.notEmpty
  have isText : stringBytes line = bytes before ++ stringBytes span.word ++ bytes after := by
    rw [stringBytes, split, bytes_append, bytes_append, stringBytes]
  have isStart : span.start = (bytes before).length := by rw [start, length_bytes]
  have isStop : span.stop = (bytes before ++ stringBytes span.word).length := by
    rw [stop, stringBytes, ← bytes_append, length_bytes]
  constructor
  · rw [start, stop, byteLength_append]
    omega
  · rw [isText, isStop, List.take_left, isStart, List.drop_left]

end Text

/-- What the word under a cursor is, at every column of a line. -/
structure SelectsWords (kind : DocumentKind) (line : String) : Prop where
  /-- There is no word at a column that is beyond the line, or if neither of the two characters
  around it belongs to a word. -/
  nothing : ∀ column, wordAt? kind line column = none ↔
    line.length < column ∨ ∀ place, place = column ∨ place + 1 = column →
      ∀ c ∈ line.toList[place]?, kind.inWord c = false
  /-- The word at a column is the longest run that has one of these characters. -/
  found : ∀ column span, wordAt? kind line column = some span ↔
    ∃ before after, Text.IsSpanOf kind.inWord line span before after ∧
      ∃ place, (place = column ∨ place + 1 = column) ∧ before.length ≤ place ∧
        place < before.length + span.word.length
  /-- Offsets are in front of a character and behind one, and cut the word out of the line. -/
  bytes : ∀ span before after, Text.IsSpanOf kind.inWord line span before after →
    span.start < span.stop ∧
      ((Text.stringBytes line).take span.stop).drop span.start = Text.stringBytes span.word
  /-- Every column from the first character of a word to just behind its last one selects it. -/
  everywhere : ∀ span before after, Text.IsSpanOf kind.inWord line span before after →
    ∀ column, before.length ≤ column → column ≤ before.length + span.word.length →
      wordAt? kind line column = some span
  /-- No two words have a column in common. -/
  apart : ∀ span before after, Text.IsSpanOf kind.inWord line span before after →
    ∀ other front back, Text.IsSpanOf kind.inWord line other front back →
      before.length < front.length → before.length + span.word.length < front.length

/-- **The word under a cursor is the word that touches it.** -/
theorem wordAt?_selects_touching_word (kind : DocumentKind) (line : String) :
    SelectsWords kind line ∧ ∀ c, kind.inWord c =
      (c.isAlphanum || c == '_' || c == '$' ||
        decide (kind = .css ∨ kind = .scss ∨ kind = .less) && c == '-') := by
  refine ⟨⟨?nothing, ?found, ?bytes, ?everywhere, ?apart⟩, ?classes⟩
  case nothing =>
    intro column
    rw [wordAt?, Text.spanAt?_eq_none_iff, iff_or_self]
    intro beyond place isNext c isThere
    have inLine := (List.getElem?_eq_some_iff.mp isThere).1
    rw [String.length_toList] at inLine
    omega
  case found =>
    intro column span
    rw [wordAt?, Text.spanAt?_eq_some_iff]
    apply exists_congr
    intro before
    apply exists_congr
    intro after
    apply and_congr_right
    intro isSpan
    exact Text.reaches_iff isSpan.length_pos
  case bytes => exact fun span before after isSpan => isSpan.bytes_between
  case everywhere =>
    intro span before after isSpan column fromStart toStop
    exact Text.spanAt?_eq_some_iff.mpr ⟨before, after, isSpan, fromStart, toStop⟩
  case apart =>
    intro span before after isSpan other front back isOther earlier
    apply Nat.not_le.mp
    intro reaches
    rw [← String.length_toList] at reaches
    have isFirst := isSpan.isWord.start_le isOther.isWord (isSpan.split.symm.trans isOther.split)
      reaches (Nat.le_refl _)
    omega
  case classes =>
    intro c
    cases kind <;> rfl

end WebCompat
