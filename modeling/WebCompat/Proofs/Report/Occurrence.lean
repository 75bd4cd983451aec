import WebCompat.Proofs.Lookup.Session
import WebCompat.Proofs.Text.Lines
import WebCompat.Proofs.Text.Occurrence
import WebCompat.Proofs.Text.Span
import WebCompat.Report.Cursor

/-!
The count of a hovered word. A cursor selects runs of letters, digits, low lines and dollar signs
of ASCII, in style sheets of hyphens too; what is counted is bounded by the word boundaries of
Unicode. The two agree on a word that begins and ends with a letter, a digit or a low line and has
no letter beyond ASCII next to it. Elsewhere the word under the cursor need not be counted, and a
report may say that it does not occur.
-/

namespace WebCompat

open Session (ownMachine)

namespace Text

/-! ## Words of a line in their text -/

/-- Neither a line break nor the end of a text is a word character. -/
theorem any_isWordChar_of_break {edge : Option Char} (isBreak : ∀ c ∈ edge, c = '\n' ∨ c = '\r') :
    edge.any isWordChar = false := by
  cases edge with
  | none => rfl
  | some c =>
      rcases isBreak c rfl with rfl | rfl
      · rfl
      · rfl

/-- A piece of a line that stands apart in it stands apart in the text. Where the line ends, the
text has a line break or ends too, and neither is a word character. -/
theorem standsApart_in_text {text line : String} (isLine : line ∈ lines text)
    {before piece after : List Char} (split : line.toList = before ++ piece ++ after)
    (apart : StandsApart before piece after) :
    ∃ front back, text.toList = front ++ piece ++ back ∧ StandsApart front piece back := by
  obtain ⟨front, back, inText, startsThere, endsThere⟩ := exists_of_mem_lines isLine
  have noneBefore := any_isWordChar_of_break fun c member => Or.inl (startsThere c member)
  have noneAfter := any_isWordChar_of_break endsThere
  refine ⟨front ++ before, after ++ back, ?_, ?_, ?_⟩
  · rw [inText, split]
    simp only [List.append_assoc]
  · have sameBefore : (front ++ before).getLast?.any isWordChar =
        before.getLast?.any isWordChar := by
      cases before with
      | nil =>
          rw [List.append_nil, noneBefore]
          rfl
      | cons c before => rw [List.getLast?_append, List.getLast?_cons, Option.some_or]
    rw [isBoundary, sameBefore]
    exact apart.1
  · have sameAfter : (after ++ back).head?.any isWordChar = after.head?.any isWordChar := by
      cases after with
      | nil => exact noneAfter
      | cons c after => rfl
    rw [isBoundary, sameAfter]
    exact apart.2

/-- Whether a word begins and ends with a word character, and has nothing but ASCII around it. -/
def HasPlainEdges (before word after : List Char) : Prop :=
  (∀ c ∈ word.head?, isWordChar c = true) ∧ (∀ c ∈ word.getLast?, isWordChar c = true) ∧
    (∀ c ∈ before.getLast?, c.toNat < 0x80) ∧ ∀ c ∈ after.head?, c.toNat < 0x80

private theorem not_isWordChar_of_not_inWord {kind : DocumentKind} {c : Char}
    (isAscii : c.toNat < 0x80) (outside : kind.inWord c = false) : isWordChar c = false := by
  rw [isWordChar, if_pos isAscii]
  simp only [DocumentKind.inWord, Bool.or_eq_false_iff] at outside
  rw [Bool.or_eq_false_iff]
  exact outside.1.1

/-- Every word character of ASCII is one that a cursor selects, so that a longest run ends where
words end. -/
theorem standsApart_of_hasPlainEdges {kind : DocumentKind} {before word after : List Char}
    (isWord : IsWord kind.inWord before word after) (plain : HasPlainEdges before word after) :
    StandsApart before word after := by
  obtain ⟨startsWord, endsWord, asciiBefore, asciiAfter⟩ := plain
  have outsideBefore : before.getLast?.any isWordChar = false := by
    cases isLast : before.getLast? with
    | none => rfl
    | some c =>
        exact not_isWordChar_of_not_inWord (asciiBefore c isLast) (isWord.startsThere c isLast)
  have outsideAfter : after.head?.any isWordChar = false := by
    cases isHead : after.head? with
    | none => rfl
    | some c => exact not_isWordChar_of_not_inWord (asciiAfter c isHead) (isWord.endsThere c isHead)
  constructor
  · rw [isBoundary, outsideBefore, List.head?_eq_some_head isWord.notEmpty, Option.any_some,
      startsWord _ (List.head?_eq_some_head isWord.notEmpty)]
    rfl
  · rw [isBoundary, outsideAfter, List.getLast?_eq_some_getLast isWord.notEmpty, Option.any_some,
      endsWord _ (List.getLast?_eq_some_getLast isWord.notEmpty)]
    rfl

end Text

/-! ## Reports -/

/-- A report is about a word that a column of a line stands at, and counts it in the whole text. -/
theorem HoverReport.exists_of_at? {service : Service} {client : Client} {kind : DocumentKind}
    {text : String} {line column : Nat} {before : List Request} {report : HoverReport}
    (found : (at? service client kind text line column before).1 = some report) :
    ∃ lineText, (Text.lines text)[line]? = some lineText ∧
      Text.IsWordAt kind.inWord lineText column report.word ∧
      report.occurrences = Text.occurrences text report.word := by
  unfold at? at found
  split at found
  · cases found
  · rename_i lineText isLine
    split at found
    · cases found
    · rename_i span isSpan
      cases found
      exact ⟨lineText, isLine, Text.isWordAt_of_spanAt? isSpan, rfl⟩

/-- **A report counts the word under its cursor wherever the word stands apart.** What a cursor
selects is a longest run of the characters of its document; if the run has a word boundary at both
ends, then it is counted, and so it is if its edges are plain. A report counts no occurrence at all
exactly if the text has none that stands apart. -/
theorem HoverReport.counts_word_that_stands_apart {service : Service} {client : Client}
    {kind : DocumentKind} {text : String} {line column : Nat} {before : List Request}
    {report : HoverReport}
    (found : (at? service client kind text line column before).1 = some report) :
    (1 ≤ report.occurrences ↔ Text.OccursApart text.toList report.word.toList) ∧
      ∃ lineText front back, (Text.lines text)[line]? = some lineText ∧
        lineText.toList = front ++ report.word.toList ++ back ∧
        front.length ≤ column ∧ column ≤ front.length + report.word.length ∧
        Text.IsWord kind.inWord front report.word.toList back ∧
        (Text.StandsApart front report.word.toList back → 1 ≤ report.occurrences) ∧
        (Text.HasPlainEdges front report.word.toList back → 1 ≤ report.occurrences) := by
  obtain ⟨lineText, isLine, ⟨front, back, split, isWord, fromStart, toStop⟩, count⟩ :=
    exists_of_at? found
  have notEmpty : report.word ≠ "" := by
    intro isEmpty
    apply isWord.notEmpty
    rw [isEmpty]
    rfl
  have counted : 1 ≤ report.occurrences ↔ Text.OccursApart text.toList report.word.toList := by
    rw [count, Nat.one_le_iff_ne_zero, ← Nat.pos_iff_ne_zero, Text.occurrences_pos_iff]
    exact and_iff_right notEmpty
  have countedThere : Text.StandsApart front report.word.toList back → 1 ≤ report.occurrences := by
    intro apart
    obtain ⟨before, after, inText, apartInText⟩ :=
      Text.standsApart_in_text (List.mem_of_getElem? isLine) split apart
    exact counted.mpr ⟨before, report.word.toList, after, inText, rfl, apartInText⟩
  refine ⟨counted, lineText, front, back, isLine, split, fromStart, toStop, isWord, countedThere,
    ?_⟩
  intro plain
  exact countedThere (Text.standsApart_of_hasPlainEdges isWord plain)

/-- The cursor at the end of `fetch` in a call. -/
theorem HoverReport.counts_fetch :
    ∃ report, (at? .silent ownMachine .javascript "x = fetch(url)" 0 9 []).1 = some report ∧
      Text.OccursApart "x = fetch(url)".toList report.word.toList ∧ 1 ≤ report.occurrences := by
  have word : ((at? .silent ownMachine .javascript "x = fetch(url)" 0 9 []).1.map
      HoverReport.word) = some "fetch" := by decide +kernel
  obtain ⟨report, found, isWord⟩ := Option.map_eq_some_iff.mp word
  have apart : Text.OccursApart "x = fetch(url)".toList report.word.toList := by
    rw [isWord]
    exact ⟨"x = ".toList, "fetch".toList, "(url)".toList, rfl, rfl, by decide +kernel⟩
  exact ⟨report, found, apart, (counts_word_that_stands_apart found).1.mpr apart⟩

/-- Words that a report is about and counts nowhere: one that begins with a dollar sign, one of a
style sheet that begins with hyphens, and one behind a letter beyond ASCII. -/
theorem HoverReport.occurrences_of_words_without_boundary :
    let counted := fun (kind : DocumentKind) (text : String) (column : Nat) =>
      (at? .silent ownMachine kind text 0 column []).1.map fun report =>
        (report.word, report.occurrences)
    counted .javascript "let $el = 1;" 4 = some ("$el", 0) ∧
      counted .css "--brand: red;" 2 = some ("--brand", 0) ∧
      counted .javascript "éfetch(url)" 3 = some ("fetch", 0) := by
  intro counted
  refine ⟨?_, ?_, ?_⟩
  · decide +kernel
  · decide +kernel
  · decide +kernel

end WebCompat
