import WebCompat.Proofs.Text.Lowercase
import WebCompat.Text.CaseFold
import WebCompat.Text.Word

/-!
Which characters are equal to one of ASCII up to case: those of ASCII that have the same small
letter, and of all others the long s and the Kelvin sign only. In particular what is equal up to
case to a letter, a digit or the low line is a word character.

Owns: the rows of the folding table with their images in ASCII; and the partners of an ASCII
character.
-/

namespace WebCompat.Text

/-! ## The folding table -/

/-- Two characters beyond ASCII are folded into it. -/
theorem caseFoldRows_beyond_ascii : ∀ row ∈ caseFoldRows,
    0x80 ≤ row.target ∨ row = ⟨0x17F, 0x17F, 1, 0x73⟩ ∨ row = ⟨0x212A, 0x212A, 1, 0x6B⟩ := by
  decide +kernel

/-- No image of the table is a surrogate. -/
theorem caseFoldRows_valid : ∀ row ∈ caseFoldRows, row.HasValidImages := by
  decide +kernel

/-! ## Partners of an ASCII character -/

theorem foldCase_of_ascii {c : Char} (isAscii : c.toNat < 0x80) : foldCase c = c.toLower :=
  if_pos isAscii

/-- A character beyond ASCII stays there, but for the long s and the Kelvin sign. -/
theorem foldCase_of_not_ascii {c : Char} (beyond : ¬ c.toNat < 0x80) :
    0x80 ≤ (foldCase c).toNat ∨ c = 'ſ' ∧ foldCase c = 's' ∨
      c = '\u212A' ∧ foldCase c = 'k' := by
  rw [foldCase, if_neg beyond]
  cases mapped : CaseRow.image? caseFoldRows c.toNat with
  | none => exact Or.inl (Nat.not_lt.mp beyond)
  | some image =>
      have isImage := CaseRow.toNat_ofNat_of_image? caseFoldRows_valid mapped
      obtain ⟨row, isRow, ⟨fromFirst, toLast, _⟩, rfl⟩ := CaseRow.exists_of_image?_eq_some mapped
      show 0x80 ≤ (Char.ofNat _).toNat ∨ _ ∧ Char.ofNat _ = _ ∨ _ ∧ Char.ofNat _ = _
      rcases caseFoldRows_beyond_ascii row isRow with above | rfl | rfl
      · rw [isImage]
        exact Or.inl (Nat.le_trans above (Nat.le_add_right _ _))
      · have isLongS : c = 'ſ' := Char.toNat_inj.mp (Nat.le_antisymm toLast fromFirst)
        subst isLongS
        exact Or.inr (Or.inl ⟨rfl, rfl⟩)
      · have isKelvin : c = '\u212A' := Char.toNat_inj.mp (Nat.le_antisymm toLast fromFirst)
        subst isKelvin
        exact Or.inr (Or.inr ⟨rfl, rfl⟩)

private theorem toNat_toLower_lt {c : Char} (isAscii : c.toNat < 0x80) :
    c.toLower.toNat < 0x80 := by
  rw [toNat_toLower]
  split <;> omega

/-- **The partners of an ASCII character** up to case are those of ASCII with the same small letter,
the long s for an s and the Kelvin sign for a k. -/
theorem foldCase_eq_iff_of_ascii {c w : Char} (isAscii : w.toNat < 0x80) :
    foldCase c = foldCase w ↔
      c.toNat < 0x80 ∧ c.toLower = w.toLower ∨ c = 'ſ' ∧ w.toLower = 's' ∨
        c = '\u212A' ∧ w.toLower = 'k' := by
  rw [foldCase_of_ascii isAscii]
  by_cases isSmall : c.toNat < 0x80
  · have notLongS : c ≠ 'ſ' := by
      rintro rfl
      exact absurd isSmall (by decide)
    have notKelvin : c ≠ '\u212A' := by
      rintro rfl
      exact absurd isSmall (by decide)
    rw [foldCase_of_ascii isSmall]
    simp [isSmall, notLongS, notKelvin]
  · simp only [isSmall, false_and, false_or]
    constructor
    · intro same
      rcases foldCase_of_not_ascii isSmall with beyond | ⟨isLongS, folded⟩ | ⟨isKelvin, folded⟩
      · have inAscii := toNat_toLower_lt isAscii
        rw [same] at beyond
        omega
      · exact Or.inl ⟨isLongS, same.symm.trans folded⟩
      · exact Or.inr ⟨isKelvin, same.symm.trans folded⟩
    · rintro (⟨rfl, isS⟩ | ⟨rfl, isK⟩)
      · rw [isS]
        decide +kernel
      · rw [isK]
        decide +kernel

/-! ## Words of ASCII -/

/-- Whether a character is a letter, a digit or the low line of ASCII. -/
def isPlain (c : Char) : Bool :=
  c.isAlphanum || c == '_'

/-- Whether a word is made of letters, digits and low lines of ASCII, and not empty. -/
def IsPlainWord (word : List Char) : Prop :=
  word ≠ [] ∧ ∀ c ∈ word, isPlain c = true

theorem toNat_lt_of_isPlain {c : Char} (plain : isPlain c = true) : c.toNat < 0x80 := by
  rcases Bool.or_eq_true_iff.mp plain with isAlphanum | isLowLine
  · exact toNat_lt_of_isAlphanum isAlphanum
  · rw [beq_iff_eq] at isLowLine
    rw [isLowLine]
    decide

/-- Small letters are what they are of. -/
theorem isPlain_toLower {c : Char} (isAscii : c.toNat < 0x80) :
    isPlain c.toLower = isPlain c := by
  have inAscii : ∀ n < 0x80, isPlain (Char.ofNat n).toLower = isPlain (Char.ofNat n) := by
    decide +kernel
  have here := inAscii c.toNat isAscii
  rwa [Char.ofNat_toNat] at here

private theorem isPlain_of_toLower_eq {c w : Char} (plain : isPlain w = true)
    (sameLetter : c.toLower = w.toLower) : isPlain c = true := by
  have isAscii := toNat_lt_of_isPlain plain
  have isSmall : c.toNat < 0x80 := by
    have lowered := toNat_toLower_lt isAscii
    rw [← sameLetter, toNat_toLower] at lowered
    split at lowered <;> omega
  rw [← isPlain_toLower isSmall, sameLetter, isPlain_toLower isAscii, plain]

/-- What is equal up to case to a character of a plain word is a word character. -/
theorem isWordChar_of_foldCase_eq {c w : Char} (plain : isPlain w = true)
    (same : foldCase c = foldCase w) : isWordChar c = true := by
  rcases (foldCase_eq_iff_of_ascii (toNat_lt_of_isPlain plain)).mp same with
    ⟨isSmall, sameLetter⟩ | ⟨rfl, -⟩ | ⟨rfl, -⟩
  · rw [isWordChar, if_pos isSmall]
    exact isPlain_of_toLower_eq plain sameLetter
  · decide +kernel
  · decide +kernel

/-- A word with the small letters of a plain word is one, and is equal to it up to case. -/
theorem isPlainWord_of_toLower {word other : List Char} (plain : IsPlainWord word)
    (sameLetters : other.map Char.toLower = word.map Char.toLower) :
    IsPlainWord other ∧ other.map foldCase = word.map foldCase := by
  have folded : ∀ {text : List Char}, (∀ c ∈ text, isPlain c = true) →
      text.map foldCase = text.map Char.toLower := fun inPlain =>
    List.map_congr_left fun c member => foldCase_of_ascii (toNat_lt_of_isPlain (inPlain c member))
  have inPlain : ∀ c ∈ other, isPlain c = true := by
    intro c member
    have lowered : c.toLower ∈ word.map Char.toLower := by
      rw [← sameLetters]
      exact List.mem_map_of_mem member
    obtain ⟨w, isIn, sameLetter⟩ := List.mem_map.mp lowered
    exact isPlain_of_toLower_eq (plain.2 w isIn) sameLetter.symm
  refine ⟨⟨?_, inPlain⟩, ?_⟩
  · rintro rfl
    exact plain.1 (List.map_eq_nil_iff.mp sameLetters.symm)
  · rw [folded inPlain, sameLetters, folded plain.2]

end WebCompat.Text
