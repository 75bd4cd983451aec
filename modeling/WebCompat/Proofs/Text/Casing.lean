import Mathlib.Data.List.Chain
import Mathlib.Data.List.TakeWhile
import WebCompat.Proofs.Text.Lowercase

/-!
What lower case is: each character of a text is replaced by its small form, and the form of a
capital sigma is told by whether a word ends with it.

Owns: the ends of words; the form of a character between two pieces of text; that lower-casing is
made of these forms and of nothing else; and the classes of the letters that most texts are made of.
-/

namespace WebCompat.Text

/-! ## Ends of words -/

/-- Whether the first character of a text that is not case-ignorable is a cased one. -/
def StartsCased (text : List Char) : Prop :=
  ∃ skipped c rest, text = skipped ++ c :: rest ∧
    (∀ other ∈ skipped, isCaseIgnorable other = true) ∧ isCaseIgnorable c = false ∧
    isCased c = true

/-- Whether a word ends with a letter that stands between two pieces of text: the word goes on in
front of it, and not behind it. -/
def EndsWord (front back : List Char) : Prop :=
  StartsCased front.reverse ∧ ¬ StartsCased back

theorem meetsCased_iff {text : List Char} : meetsCased text = true ↔ StartsCased text := by
  constructor
  · intro meets
    have split := List.takeWhile_append_dropWhile (p := isCaseIgnorable) (l := text)
    unfold meetsCased at meets
    cases left : text.dropWhile isCaseIgnorable with
    | nil =>
        rw [left] at meets
        cases meets
    | cons c rest =>
        rw [left] at meets split
        refine ⟨_, c, rest, split.symm, fun _ member => List.mem_takeWhile_imp member, ?_, meets⟩
        have first := List.head_dropWhile_not isCaseIgnorable (l := text) (by simp [left])
        simpa [left] using first
  · rintro ⟨skipped, c, rest, rfl, ignorable, stops, cased⟩
    rw [meetsCased, List.dropWhile_append_of_pos ignorable,
      List.dropWhile_cons_of_neg (by simp [stops])]
    exact cased

/-- The end of a word, as the form of a sigma is told by it. -/
theorem endsWord_iff {front back : List Char} :
    EndsWord front back ↔ (meetsCased front.reverse && !meetsCased back) = true := by
  rw [EndsWord, ← meetsCased_iff, ← meetsCased_iff, Bool.and_eq_true, Bool.not_eq_true',
    Bool.not_eq_true]

/-! ## Forms of characters -/

/-- Capital letters beyond ASCII whose small letters are all at one distance: the first and the last
of each run, and that distance. The runs are of the Latin, Greek, Cyrillic, Armenian, full-width
Latin and Deseret letters. -/
def capitals : List (Nat × Nat × Nat) :=
  [(0xC0, 0xD6, 0x20), (0xD8, 0xDE, 0x20), (0x391, 0x3A1, 0x20), (0x3A3, 0x3AB, 0x20),
   (0x400, 0x40F, 0x50), (0x410, 0x42F, 0x20), (0x531, 0x556, 0x30), (0xFF21, 0xFF3A, 0x20),
   (0x10400, 0x10427, 0x28)]

/-- The form of a character in lower case, between two pieces of text. -/
structure IsForm (front : List Char) (c : Char) (back form : List Char) : Prop where
  asciiCapital : 0x41 ≤ c.toNat → c.toNat ≤ 0x5A → form = [Char.ofNat (c.toNat + 0x20)]
  asciiOther : c.toNat < 0x80 → ¬ (0x41 ≤ c.toNat ∧ c.toNat ≤ 0x5A) → form = [c]
  dottedCapital : c = '\u0130' → form = ['i', '\u0307']
  finalSigma : c = 'Σ' → EndsWord front back → form = ['ς']
  otherSigma : c = 'Σ' → ¬ EndsWord front back → form = ['σ']
  capital : c ≠ 'Σ' → ∀ run ∈ capitals, run.1 ≤ c.toNat → c.toNat ≤ run.2.1 →
    form = [Char.ofNat (c.toNat + run.2.2)]
  /-- The table has all capitals beyond ASCII, those of `capitals` among them. -/
  mapped : c ≠ 'Σ' → ∀ row ∈ lowercaseRows, row.Maps c.toNat →
    form = [Char.ofNat (row.target + (c.toNat - row.first))]
  unmapped : 0x80 ≤ c.toNat → c ≠ '\u0130' → (∀ row ∈ lowercaseRows, ¬ row.Maps c.toNat) →
    form = [c]

/-- Whether a text is another one in lower case. -/
def Lowers (raw lowered : List Char) : Prop :=
  ∃ forms : List (List Char), lowered = forms.flatten ∧ forms.length = raw.length ∧
    ∀ front c back, raw = front ++ c :: back →
      ∃ form, forms[front.length]? = some form ∧ IsForm front c back form

/-- Whether a row stands in front of another one, and has nothing in common with it. -/
def CaseRow.IsBefore (row later : CaseRow) : Prop :=
  row.first ≤ row.last ∧ row.last < later.first

instance (row later : CaseRow) : Decidable (row.IsBefore later) :=
  inferInstanceAs (Decidable (_ ∧ _))

instance : Trans CaseRow.IsBefore CaseRow.IsBefore CaseRow.IsBefore where
  trans before beforeNext := ⟨before.1, Nat.lt_trans before.2
    (Nat.lt_of_le_of_lt beforeNext.1 beforeNext.2)⟩

private theorem lowercaseRows_ascend : lowercaseRows.Pairwise CaseRow.IsBefore := by
  -- Neighbours are enough, and are checked much faster.
  have neighbours : lowercaseRows.IsChain CaseRow.IsBefore := by decide +kernel
  exact List.isChain_iff_pairwise.mp neighbours

/-- Of rows in ascending order, at most one maps a code point. -/
theorem CaseRow.image?_of_maps {rows : List CaseRow}
    (ascend : rows.Pairwise IsBefore) {row : CaseRow} {n : Nat}
    (member : row ∈ rows) (maps : row.Maps n) :
    image? rows n = some (row.target + (n - row.first)) := by
  obtain ⟨fromFirst, toLast, inStride⟩ := maps
  induction rows with
  | nil => exact absurd member List.not_mem_nil
  | cons first rows inductionHypothesis =>
      rw [List.pairwise_cons] at ascend
      unfold image?
      rcases List.mem_cons.mp member with rfl | later
      · rw [if_neg (by omega), if_pos (by simp [toLast, inStride])]
      · obtain ⟨isRow, beyond⟩ := ascend.1 row later
        have notHere : ¬ (n ≤ first.last ∧ (n - first.first) % first.stride = 0) := by omega
        rw [inductionHypothesis ascend.2 later]
        split
        · omega
        · simp [notHere]

private theorem capitals_within_rows :
    (capitals.all fun run => lowercaseRows.any fun row =>
      row.first ≤ run.1 && run.2.1 ≤ row.last && row.stride == 1 &&
        row.target == row.first + run.2.2) = true := by
  decide +kernel

/-- A run of capitals lies in a single row, of which it has every code point. -/
theorem image?_of_mem_capitals {run : Nat × Nat × Nat} (member : run ∈ capitals) {n : Nat}
    (fromFirst : run.1 ≤ n) (toLast : n ≤ run.2.1) :
    CaseRow.image? lowercaseRows n = some (n + run.2.2) := by
  have within := List.all_eq_true.mp capitals_within_rows run member
  obtain ⟨row, isRow, fits⟩ := List.any_eq_true.mp within
  simp only [Bool.and_eq_true, decide_eq_true_eq, beq_iff_eq] at fits
  obtain ⟨⟨⟨begins, ends⟩, isOne⟩, distance⟩ := fits
  have maps : row.Maps n := ⟨by omega, by omega, by rw [isOne, Nat.mod_one]⟩
  rw [CaseRow.image?_of_maps lowercaseRows_ascend isRow maps, distance]
  congr 1
  omega

/-- The form that lower-casing gives a character. -/
def formBetween (before : List Char) (c : Char) (after : List Char) : List Char :=
  if c = 'Σ' then [sigmaForm before after] else lowercaseChar c

private theorem lowercaseChar_of_image? {c : Char} {target : Nat}
    (image : CaseRow.image? lowercaseRows c.toNat = some target) :
    lowercaseChar c = [Char.ofNat target] := by
  obtain ⟨row, isRow, ⟨fromFirst, toLast, _⟩, _⟩ := CaseRow.exists_of_image?_eq_some image
  have beyond : 0x80 ≤ row.first := loweredRows_beyond_ascii row
    (List.mem_cons_of_mem _ isRow)
  have notDotted : c ≠ '\u0130' := by
    rintro rfl
    have unmapped : CaseRow.image? lowercaseRows 0x130 = none := by decide +kernel
    exact nomatch unmapped.symm.trans image
  rw [lowercaseChar, if_neg (by omega), if_neg notDotted, image]
  rfl

private theorem ne_sigma_of_ascii {c : Char} (isAscii : c.toNat < 0x80) : c ≠ 'Σ' := by
  rintro rfl
  exact absurd isAscii (by decide)

private theorem formBetween_of_ascii {c : Char} (isAscii : c.toNat < 0x80)
    (before after : List Char) :
    formBetween before c after = [c.toLower] := by
  rw [formBetween, if_neg (ne_sigma_of_ascii isAscii), lowercaseChar, if_pos isAscii]

/-- Lower-casing gives every character its form. -/
theorem isForm_formBetween (front : List Char) (c : Char) (back : List Char) :
    IsForm front c back (formBetween front.reverse c back) where
  asciiCapital fromA toZ := by
    rw [formBetween_of_ascii (Nat.lt_of_le_of_lt toZ (by decide)),
      ← Char.ofNat_toNat c.toLower, toNat_toLower, if_pos ⟨fromA, toZ⟩]
  asciiOther isAscii notCapital := by
    rw [formBetween_of_ascii isAscii, ← Char.ofNat_toNat c.toLower, toNat_toLower,
      if_neg notCapital, Char.ofNat_toNat]
  dottedCapital isDotted := by
    have notSigma : c ≠ 'Σ' := by
      rw [isDotted]
      decide
    rw [formBetween, if_neg notSigma, isDotted]
    decide
  finalSigma isSigma ends := by
    rw [formBetween, if_pos isSigma, sigmaForm, if_pos (endsWord_iff.mp ends)]
  otherSigma isSigma goesOn := by
    rw [formBetween, if_pos isSigma, sigmaForm, if_neg fun ends => goesOn (endsWord_iff.mpr ends)]
  capital notSigma run member fromFirst toLast := by
    rw [formBetween, if_neg notSigma,
      lowercaseChar_of_image? (image?_of_mem_capitals member fromFirst toLast)]
  mapped notSigma row member maps := by
    rw [formBetween, if_neg notSigma,
      lowercaseChar_of_image? (CaseRow.image?_of_maps lowercaseRows_ascend member maps)]
  unmapped beyond notDotted none := by
    have notInTable := CaseRow.image?_eq_none none
    have notSigma : c ≠ 'Σ' := by
      rintro rfl
      exact absurd notInTable (by decide +kernel)
    rw [formBetween, if_neg notSigma, lowercaseChar, if_neg (by omega), if_neg notDotted,
      notInTable]
    rfl

/-- The form of a character is the only one. The cases are those of the standard: the sigma, ASCII,
the dotted capital, and what the table says of all others. -/
theorem IsForm.unique {front back form other : List Char} {c : Char}
    (isForm : IsForm front c back form) (isOther : IsForm front c back other) : form = other := by
  by_cases isSigma : c = 'Σ'
  · by_cases ends : EndsWord front back
    · rw [isForm.finalSigma isSigma ends, isOther.finalSigma isSigma ends]
    · rw [isForm.otherSigma isSigma ends, isOther.otherSigma isSigma ends]
  by_cases isAscii : c.toNat < 0x80
  · by_cases isCapital : 0x41 ≤ c.toNat ∧ c.toNat ≤ 0x5A
    · rw [isForm.asciiCapital isCapital.1 isCapital.2, isOther.asciiCapital isCapital.1 isCapital.2]
    · rw [isForm.asciiOther isAscii isCapital, isOther.asciiOther isAscii isCapital]
  by_cases isDotted : c = '\u0130'
  · rw [isForm.dottedCapital isDotted, isOther.dottedCapital isDotted]
  by_cases inTable : ∃ row ∈ lowercaseRows, row.Maps c.toNat
  · obtain ⟨row, member, maps⟩ := inTable
    rw [isForm.mapped isSigma row member maps, isOther.mapped isSigma row member maps]
  · have none : ∀ row ∈ lowercaseRows, ¬ row.Maps c.toNat := fun row member maps =>
      inTable ⟨row, member, maps⟩
    rw [isForm.unmapped (Nat.not_lt.mp isAscii) isDotted none,
      isOther.unmapped (Nat.not_lt.mp isAscii) isDotted none]

/-! ## Texts -/

/-- The forms that lower-casing gives the characters of a text, which follows `before`; that is given
backwards. -/
def formsAfter (before : List Char) : List Char → List (List Char)
  | [] => []
  | c :: rest => formBetween before c rest :: formsAfter (c :: before) rest

private theorem flatten_formsAfter (before text : List Char) :
    (formsAfter before text).flatten = lowercaseAfter before text := by
  induction text generalizing before with
  | nil => rfl
  | cons c rest inductionHypothesis =>
      rw [formsAfter, List.flatten_cons, inductionHypothesis, lowercaseAfter]
      rfl

private theorem length_formsAfter (before text : List Char) :
    (formsAfter before text).length = text.length := by
  induction text generalizing before with
  | nil => rfl
  | cons c rest inductionHypothesis => exact congrArg (· + 1) (inductionHypothesis (c :: before))

private theorem getElem?_formsAfter (before front : List Char) (c : Char) (back : List Char) :
    (formsAfter before (front ++ c :: back))[front.length]? =
      some (formBetween (front.reverse ++ before) c back) := by
  induction front generalizing before with
  | nil => rfl
  | cons first front inductionHypothesis =>
      have later := inductionHypothesis (first :: before)
      simpa [formsAfter] using later

/-- **Lower-casing gives each character its form**, and no other text has these forms. -/
theorem lowers_iff {raw : String} {lowered : List Char} :
    Lowers raw.toList lowered ↔ lowered = (lowercase raw).toList := by
  have lowers : Lowers raw.toList (lowercase raw).toList := by
    refine ⟨formsAfter [] raw.toList, ?_, length_formsAfter [] raw.toList, ?_⟩
    · rw [lowercase, String.toList_ofList, flatten_formsAfter]
    · intro front c back isSplit
      refine ⟨_, isSplit ▸ getElem?_formsAfter [] front c back, ?_⟩
      rw [List.append_nil]
      exact isForm_formBetween front c back
  refine ⟨?_, fun same => same ▸ lowers⟩
  rintro ⟨forms, rfl, length, areForms⟩
  obtain ⟨others, isLowered, lengthOthers, areOthers⟩ := lowers
  rw [isLowered]
  congr 1
  apply List.ext_getElem?
  intro place
  by_cases within : place < raw.toList.length
  · have isSplit : raw.toList =
        raw.toList.take place ++ raw.toList[place] :: raw.toList.drop (place + 1) := by simp
    have atPlace : (raw.toList.take place).length = place := by
      rw [List.length_take]
      omega
    obtain ⟨form, isForm, hasForm⟩ := areForms _ _ _ isSplit
    obtain ⟨other, isOther, hasOther⟩ := areOthers _ _ _ isSplit
    rw [atPlace] at isForm isOther
    rw [isForm, isOther, hasForm.unique hasOther]
  · rw [List.getElem?_eq_none (by omega), List.getElem?_eq_none (by omega)]

/-! ## Letters -/

/-- Runs of letters, capital and small: those of ASCII, of Latin-1, of Greek and of Cyrillic. -/
def letters : List (Nat × Nat) :=
  [(0x41, 0x5A), (0x61, 0x7A), (0xC0, 0xD6), (0xD8, 0xF6), (0xF8, 0xFF), (0x391, 0x3A1),
   (0x3A3, 0x3AB), (0x3B1, 0x3C9), (0x400, 0x45F)]

/-- What the ends of words are told by: letters are cased and count, nothing else in ASCII is cased,
and of ASCII only some marks are passed over. -/
structure ClassesAreKnown : Prop where
  letter : ∀ run ∈ letters, ∀ c : Char, run.1 ≤ c.toNat → c.toNat ≤ run.2 →
    isCased c = true ∧ isCaseIgnorable c = false
  other : ∀ c : Char, c.toNat < 0x80 → isCased c = c.isAlpha
  ignorable : ∀ c : Char, c.toNat < 0x80 →
    (isCaseIgnorable c = true ↔ c ∈ ['\x27', '.', ':', '^', '\x60'])

private theorem letters_are_cased :
    (letters.all fun run => (List.range' run.1 (run.2 + 1 - run.1)).all fun n =>
      isCased (Char.ofNat n) && !isCaseIgnorable (Char.ofNat n)) = true := by
  decide +kernel

/-- The classes of characters that tell the ends of words, in ASCII and for common letters. -/
theorem classesAreKnown : ClassesAreKnown where
  letter run member c fromFirst toLast := by
    have inRun : c.toNat ∈ List.range' run.1 (run.2 + 1 - run.1) :=
      List.mem_range'_1.mpr ⟨fromFirst, by omega⟩
    have ofRun := List.all_eq_true.mp letters_are_cased run member
    have isCased := List.all_eq_true.mp ofRun c.toNat inRun
    simpa [Char.ofNat_toNat] using isCased
  other c isAscii := by
    rw [isCased, if_pos isAscii]
  ignorable c isAscii := by
    simp [isCaseIgnorable, isAscii, or_assoc]

end WebCompat.Text
