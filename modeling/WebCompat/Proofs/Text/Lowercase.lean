import WebCompat.Proofs.Text.Ascii
import WebCompat.Text.Lowercase

/-!
Lower case is stable: what has been lower-cased is its own lower-case form.

Owns: the rows of the table that keep apart from each other, the characters that are their own
lower-case form in every context, and that lower-casing yields no others.

The only context that lower-casing looks at is that of a capital sigma, and none is left. For all
other characters it is enough that no row of the table maps an image of another row. Rows are
compared as wholes: either the images lie beyond the other row, or they fall between the code
points that it maps.
-/

namespace WebCompat.Text

/-! ## Rows of a case table -/

namespace CaseRow

/-- Whether a row maps a code point. -/
def Maps (row : CaseRow) (n : Nat) : Prop :=
  row.first ≤ n ∧ n ≤ row.last ∧ (n - row.first) % row.stride = 0

/-- Whether no image under a row can be mapped by another one. -/
def keepsApart (row other : CaseRow) : Bool :=
  (row.target + (row.last - row.first)).blt other.first || other.last.blt row.target
    || ((row.stride == 2 || row.first == row.last) && other.stride == 2
      && row.target % 2 != other.first % 2)

private theorem not_maps_of_keepsApart {row other : CaseRow} (apart : row.keepsApart other = true)
    {n : Nat} (mapped : row.Maps n) : ¬other.Maps (row.target + (n - row.first)) := by
  rintro ⟨fromFirst, toLast, inStride⟩
  obtain ⟨rowFirst, rowLast, rowStride⟩ := mapped
  simp only [keepsApart, Bool.or_eq_true, Bool.and_eq_true, Nat.blt_eq, beq_iff_eq,
    bne_iff_ne] at apart
  rcases apart with (below | above) | ⟨⟨sameParity, even⟩, different⟩
  · omega
  · omega
  · -- The images have the parity of the first image, the mapped code points another one.
    have evenDistance : (n - row.first) % 2 = 0 := by
      rcases sameParity with isTwo | single
      · rw [isTwo] at rowStride
        exact rowStride
      · have isFirst : n - row.first = 0 := by omega
        rw [isFirst]
    rw [even] at inStride
    omega

theorem image?_eq_none {rows : List CaseRow} {n : Nat} (unmapped : ∀ row ∈ rows, ¬row.Maps n) :
    image? rows n = none := by
  induction rows with
  | nil => rfl
  | cons row rows inductionHypothesis =>
      have notHere := unmapped row List.mem_cons_self
      have notLater := inductionHypothesis fun other member =>
        unmapped other (List.mem_cons_of_mem row member)
      unfold image?
      split
      · rfl
      · rename_i fromFirst
        split
        · rename_i within
          simp only [Bool.and_eq_true, decide_eq_true_eq, beq_iff_eq] at within
          exact absurd ⟨Nat.not_lt.mp fromFirst, within.1, within.2⟩ notHere
        · exact notLater

theorem exists_of_image?_eq_some {rows : List CaseRow} {n image : Nat}
    (mapped : image? rows n = some image) :
    ∃ row ∈ rows, row.Maps n ∧ image = row.target + (n - row.first) := by
  induction rows with
  | nil => exact nomatch mapped
  | cons row rows inductionHypothesis =>
      unfold image? at mapped
      split at mapped
      · exact nomatch mapped
      · rename_i fromFirst
        split at mapped
        · rename_i within
          simp only [Bool.and_eq_true, decide_eq_true_eq, beq_iff_eq] at within
          refine ⟨row, List.mem_cons_self, ⟨Nat.not_lt.mp fromFirst, within.1, within.2⟩, ?_⟩
          exact (Option.some.inj mapped).symm
        · obtain ⟨other, member, found⟩ := inductionHypothesis mapped
          exact ⟨other, List.mem_cons_of_mem row member, found⟩

/-- Whether all images under a row are characters: none of them is a surrogate. -/
def HasValidImages (row : CaseRow) : Prop :=
  row.target + (row.last - row.first) < 0xD800 ∨
    0xDFFF < row.target ∧ row.target + (row.last - row.first) < 0x110000

instance (row : CaseRow) : Decidable row.HasValidImages :=
  inferInstanceAs (Decidable (_ ∨ _))

/-- An image is the code point of its character. -/
theorem toNat_ofNat_of_image? {rows : List CaseRow} (valid : ∀ row ∈ rows, row.HasValidImages)
    {n image : Nat} (mapped : image? rows n = some image) : (Char.ofNat image).toNat = image := by
  obtain ⟨row, isRow, ⟨fromFirst, toLast, _⟩, rfl⟩ := exists_of_image?_eq_some mapped
  have isValid : (row.target + (n - row.first)).isValidChar := by
    rcases valid row isRow with below | above
    · exact .inl (by omega)
    · exact .inr (by omega)
  rw [Char.ofNat, dif_pos isValid]
  rfl

end CaseRow

/-! ## The lower-case table -/

/-- Everything that lower-casing changes: the rows of the table, the capitals of ASCII and the
dotted capital I. -/
def loweredRows : List CaseRow :=
  ⟨0x41, 0x5A, 1, 0x61⟩ :: ⟨0x130, 0x130, 1, 0x69⟩ :: lowercaseRows

private theorem lowercaseRows_keepApart :
    (lowercaseRows.all fun row => loweredRows.all row.keepsApart) = true := by
  decide +kernel

theorem loweredRows_beyond_ascii : ∀ row ∈ loweredRows.tail, 0x80 ≤ row.first := by
  decide +kernel

private theorem lowercaseRows_valid : ∀ row ∈ lowercaseRows, row.HasValidImages := by
  decide +kernel

private theorem not_maps_of_image?_lowercaseRows {n image : Nat}
    (mapped : CaseRow.image? lowercaseRows n = some image) :
    ∀ other ∈ loweredRows, ¬other.Maps image := by
  intro other member
  obtain ⟨row, isRow, maps, rfl⟩ := CaseRow.exists_of_image?_eq_some mapped
  have apart := List.all_eq_true.mp lowercaseRows_keepApart row isRow
  exact CaseRow.not_maps_of_keepsApart (List.all_eq_true.mp apart other member) maps

/-! ## Characters -/

/-- A character that lower-casing leaves as it is, whatever stands around it. -/
def IsLowercase (c : Char) : Prop :=
  c ≠ 'Σ' ∧ lowercaseChar c = [c]

/-- A character that no row maps is left as it is. The capital sigma is in a row of the table. -/
theorem isLowercase_of_not_maps {c : Char} (unmapped : ∀ row ∈ loweredRows, ¬row.Maps c.toNat) :
    IsLowercase c := by
  have notCapital := unmapped ⟨0x41, 0x5A, 1, 0x61⟩ List.mem_cons_self
  have notDotted := unmapped ⟨0x130, 0x130, 1, 0x69⟩
    (List.mem_cons_of_mem _ List.mem_cons_self)
  have notInTable : CaseRow.image? lowercaseRows c.toNat = none :=
    CaseRow.image?_eq_none fun row member =>
      unmapped row (List.mem_cons_of_mem _ (List.mem_cons_of_mem _ member))
  refine ⟨?_, ?_⟩
  · rintro rfl
    exact absurd notInTable (by decide +kernel)
  · unfold lowercaseChar
    split
    · have same : c.toLower = c := by
        unfold Char.toLower
        rw [dif_neg]
        rintro ⟨fromA, toZ⟩
        rw [ge_iff_le, UInt32.le_iff_toNat_le] at fromA
        rw [UInt32.le_iff_toNat_le] at toZ
        exact notCapital ⟨fromA, toZ, Nat.mod_one _⟩
      rw [same]
    · split
      · rename_i dotted
        rw [dotted] at notDotted
        exact absurd ⟨Nat.le_refl _, Nat.le_refl _, Nat.mod_one _⟩ notDotted
      · rw [notInTable]
        rfl

/-- No row maps what an ASCII character is lowered to. -/
theorem not_maps_toLower {c : Char} (isAscii : c.toNat < 0x80) :
    ∀ row ∈ loweredRows, ¬row.Maps c.toLower.toNat := by
  have small : c.toLower.toNat < 0x80 ∧ ¬(0x41 ≤ c.toLower.toNat ∧ c.toLower.toNat ≤ 0x5A) := by
    rw [toNat_toLower]
    split <;> omega
  intro row member
  rcases List.mem_cons.mp member with rfl | later
  · rintro ⟨fromFirst, toLast, _⟩
    exact small.2 ⟨fromFirst, toLast⟩
  · have beyond : 0x80 ≤ row.first := loweredRows_beyond_ascii row later
    rintro ⟨fromFirst, _, _⟩
    omega

/-- **What a character is lowered to is its own lower-case form.** -/
theorem isLowercase_of_mem_lowercaseChar {c lowered : Char} (notSigma : c ≠ 'Σ')
    (member : lowered ∈ lowercaseChar c) : IsLowercase lowered := by
  by_cases isAscii : c.toNat < 0x80
  · rw [lowercaseChar, if_pos isAscii, List.mem_singleton] at member
    exact member ▸ isLowercase_of_not_maps (not_maps_toLower isAscii)
  · by_cases isDotted : c = '\u0130'
    · rw [lowercaseChar, if_neg isAscii, if_pos isDotted] at member
      rcases List.mem_cons.mp member with isLetter | rest
      · exact isLetter ▸ ⟨by decide, by decide⟩
      · exact List.mem_singleton.mp rest ▸ ⟨by decide, by decide +kernel⟩
    · rw [lowercaseChar, if_neg isAscii, if_neg isDotted, List.mem_singleton] at member
      cases mapped : CaseRow.image? lowercaseRows c.toNat with
      | none =>
          have same : lowered = c := by
            rw [member, mapped]
            rfl
          rw [same]
          refine ⟨notSigma, ?_⟩
          rw [lowercaseChar, if_neg isAscii, if_neg isDotted, mapped]
          rfl
      | some image =>
          have isImage : lowered.toNat = image := by
            rw [member, mapped]
            exact CaseRow.toNat_ofNat_of_image? lowercaseRows_valid mapped
          apply isLowercase_of_not_maps
          rw [isImage]
          exact not_maps_of_image?_lowercaseRows mapped

/-! ## Texts -/

private theorem isLowercase_of_mem_lowercaseAfter {lowered : Char} {text : List Char} :
    ∀ {before : List Char}, lowered ∈ lowercaseAfter before text → IsLowercase lowered := by
  induction text with
  | nil =>
      intro before member
      exact absurd member List.not_mem_nil
  | cons c text inductionHypothesis =>
      intro before member
      rw [lowercaseAfter, List.mem_append] at member
      rcases member with here | later
      · split at here
        · rw [List.mem_singleton.mp here, sigmaForm]
          split
          · exact ⟨by decide, by decide +kernel⟩
          · exact ⟨by decide, by decide +kernel⟩
        · rename_i notSigma
          exact isLowercase_of_mem_lowercaseChar notSigma here
      · exact inductionHypothesis later

theorem lowercaseAfter_of_isLowercase {text : List Char} (stable : ∀ c ∈ text, IsLowercase c)
    (before : List Char) : lowercaseAfter before text = text := by
  induction text generalizing before with
  | nil => rfl
  | cons c text inductionHypothesis =>
      have first := stable c List.mem_cons_self
      have later := fun other member => stable other (List.mem_cons_of_mem c member)
      rw [lowercaseAfter, if_neg first.1, first.2, inductionHypothesis later]
      rfl

/-- Of ASCII text, every character is lower-cased by itself. -/
theorem lowercaseAfter_of_ascii {text : List Char} (isAscii : ∀ c ∈ text, c.toNat < 0x80)
    (before : List Char) : lowercaseAfter before text = text.map Char.toLower := by
  induction text generalizing before with
  | nil => rfl
  | cons c text inductionHypothesis =>
      have here := isAscii c List.mem_cons_self
      have notSigma : c ≠ 'Σ' := by
        rintro rfl
        exact absurd here (by decide)
      rw [lowercaseAfter, if_neg notSigma, lowercaseChar, if_pos here,
        inductionHypothesis fun other later => isAscii other (List.mem_cons_of_mem _ later)]
      rfl

/-- **Lower-casing is idempotent.** -/
theorem lowercase_lowercase (s : String) : lowercase (lowercase s) = lowercase s := by
  have stable : ∀ c ∈ (lowercase s).toList, IsLowercase c := by
    intro c member
    rw [lowercase, String.toList_ofList] at member
    exact isLowercase_of_mem_lowercaseAfter member
  rw [lowercase, lowercaseAfter_of_isLowercase stable, String.ofList_toList]

end WebCompat.Text
