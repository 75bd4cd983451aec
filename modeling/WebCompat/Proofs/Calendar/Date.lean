import WebCompat.Proofs.Calendar.Reading

/-!
Dates that are written and read back. Year, month and day are written with leading zeros, which
reading allows, and the year has a sign where it would not be read without one.

Owns: that padded digits denote their number, and that every date is read back from its text.
-/

namespace WebCompat.Date

open Number (DigitsDenote)

/-! ## Padded digits -/

private theorem digitsValue_eq_ofDigitChars (digits : List Char) :
    digitsValue digits = Nat.ofDigitChars 10 digits 0 :=
  rfl

private theorem digitsValue_replicate_append (zeros : Nat) (digits : List Char) :
    digitsValue (List.replicate zeros '0' ++ digits) = digitsValue digits := by
  induction zeros with
  | zero => rfl
  | succ zeros inductionHypothesis =>
      rw [List.replicate_succ, List.cons_append]
      exact inductionHypothesis

private theorem digitsValue_padded (width n : Nat) : digitsValue (padded width n) = n := by
  rw [padded, digitsValue_replicate_append, digitsValue_eq_ofDigitChars]
  exact Nat.ofDigitChars_ten_toDigits

private theorem isDigit_of_mem_padded {width n : Nat} {c : Char} (isMember : c ∈ padded width n) :
    c.isDigit = true := by
  rcases List.mem_append.mp isMember with isZero | isDigit
  · rw [List.eq_of_mem_replicate isZero]
    decide
  · exact Nat.isDigit_of_mem_toDigits (by decide) (by decide) isDigit

theorem length_padded {width n : Nat} (short : (Nat.toDigits 10 n).length ≤ width) :
    (padded width n).length = width := by
  rw [padded, List.length_append, List.length_replicate]
  omega

theorem padded_ne_nil (width n : Nat) : padded width n ≠ [] := by
  have digits : Nat.toDigits 10 n ≠ [] := Nat.toDigits_ne_nil
  simp [padded, digits]

theorem digitsDenote_padded (width n : Nat) : DigitsDenote (padded width n) n :=
  ⟨padded_ne_nil width n, fun _ => isDigit_of_mem_padded, digitsValue_padded width n⟩

/-! ## Texts of dates -/

def sign (year : Int) : List Char :=
  if year < 0 then ['-'] else if year ≤ 9999 then [] else ['+']

private theorem writesYear_sign (year : Int) :
    WritesYear (sign year ++ padded 4 year.natAbs) year := by
  have denotes := digitsDenote_padded 4 year.natAbs
  rw [sign]
  -- Only a year without a sign is read with a width, which it then has.
  split
  · have isValue : year = -(year.natAbs : Int) := by omega
    exact (congrArg (WritesYear _) isValue).mpr (.minus denotes)
  · have isValue : year = (year.natAbs : Int) := by omega
    split
    · have short : (Nat.toDigits 10 year.natAbs).length ≤ 4 :=
        (Nat.length_toDigits_le_iff (by decide) (by decide)).mpr (by omega)
      exact (congrArg (WritesYear _) isValue).mpr (.unsigned denotes (length_padded short).le)
    · exact (congrArg (WritesYear _) isValue).mpr (.plus denotes)

private theorem writesPart_padded {n : Nat} (small : n < 100) : WritesPart (padded 2 n) n := by
  have short : (Nat.toDigits 10 n).length ≤ 2 :=
    (Nat.length_toDigits_le_iff (by decide) (by decide)).mpr small
  exact ⟨digitsDenote_padded 2 n, (length_padded short).le⟩

/-- The text of a date writes it, without white space. -/
theorem writes_chars (date : Date) : Writes date.chars date.year date.month date.day := by
  obtain ⟨-, ⟨-, december⟩, ⟨-, lastDay⟩, -⟩ := Calendar.isDay_iff.mp date.isDay
  have noGaps : ∀ gap ∈ List.replicate 6 ([] : List Char), IsGap gap := by
    intro gap isMember
    rw [List.eq_of_mem_replicate isMember]
    exact nofun
  have writes := Writes.intro noGaps (writesYear_sign date.year)
    (writesPart_padded (Nat.lt_of_le_of_lt december (by decide)))
    (writesPart_padded (Nat.lt_of_le_of_lt lastDay (by decide)))
  have split : date.chars = sign date.year ++ padded 4 date.year.natAbs ++
      '-' :: (padded 2 date.month ++ '-' :: padded 2 date.day) := by
    simp only [chars, sign, List.append_assoc, List.cons_append]
  rw [split]
  simpa only [List.nil_append, List.append_nil] using writes

/-- **Every date is read back from its text.** -/
theorem ofString_text (date : Date) : ofString date.text = .ok date := by
  rw [ofString, text, String.toList_ofList]
  exact ofChars_eq_ok_iff.mpr (writes_chars date)

/-- No two days have the same text. -/
theorem text_inj {date other : Date} : date.text = other.text ↔ date = other := by
  constructor
  · intro same
    have isRead := ofString_text date
    rw [same, ofString_text] at isRead
    exact (Except.ok.inj isRead).symm
  · exact congrArg text

/-- Dates that are read have the same text just if some date is written in both of what they are
read from. -/
theorem text_eq_text_iff {text otherText : String} {date other : Date}
    (isRead : ofString text = .ok date) (isOtherRead : ofString otherText = .ok other) :
    date.text = other.text ↔
      ∃ common : Date, common.IsWrittenIn text ∧ common.IsWrittenIn otherText := by
  simp only [text_inj, ← ofString_eq_ok_iff, isRead, isOtherRead, Except.ok.injEq,
    exists_eq_left', eq_comm]

end WebCompat.Date
