import Mathlib.Data.List.TakeWhile
import WebCompat.Number.Whole

/-!
Whole numbers up to a limit: which texts denote one, and what is wrong with the others. Reading
gives up at the first digit with which the number passes the limit, which is right because more
digits never make it smaller. So a number is too large as soon as the digits in front of the first
other character are, whatever comes behind them.
-/

namespace WebCompat.Number

/-- Whether a text consists of one digit or more and denotes a number by them. -/
def DigitsDenote (digits : List Char) (value : Nat) : Prop :=
  digits ≠ [] ∧ (∀ c ∈ digits, c.isDigit = true) ∧ Nat.ofDigitChars 10 digits 0 = value

/-- Whether a text denotes a number: by its digits, in front of which a plus sign may stand. -/
def Denotes (text : List Char) (value : Nat) : Prop :=
  DigitsDenote text value ∨ ∃ digits, text = '+' :: digits ∧ DigitsDenote digits value

private theorem le_ofDigitChars (digits : List Char) (value : Nat) :
    value ≤ Nat.ofDigitChars 10 digits value := by
  induction digits generalizing value with
  | nil => exact Nat.le_refl value
  | cons c digits inductionHypothesis =>
      have more := inductionHypothesis (10 * value + (c.toNat - '0'.toNat))
      rw [Nat.ofDigitChars_cons]
      omega

/-- Reading one digit more, with the number before it written as in a value of digits. -/
theorem appendDigits_cons (limit value : Nat) (c : Char) (rest : List Char) :
    appendDigits limit value (c :: rest) =
      if !c.isDigit then .error .invalidDigit
      else if 10 * value + (c.toNat - '0'.toNat) ≤ limit then
        appendDigits limit (10 * value + (c.toNat - '0'.toNat)) rest
      else .error .tooLarge := by
  rw [appendDigits, Nat.mul_comm value]
  rfl

/-- Digits are appended if there is nothing else and the number stays within its limit. -/
theorem appendDigits_eq_ok_iff {limit value n : Nat} (inLimit : value ≤ limit)
    (text : List Char) :
    appendDigits limit value text = .ok n ↔
      (∀ c ∈ text, c.isDigit = true) ∧ Nat.ofDigitChars 10 text value = n ∧ n ≤ limit := by
  induction text generalizing value with
  | nil =>
      simp only [appendDigits, Except.ok.injEq, List.not_mem_nil, Nat.ofDigitChars_nil]
      grind
  | cons c rest inductionHypothesis =>
      rw [appendDigits_cons, Nat.ofDigitChars_cons]
      simp only [List.forall_mem_cons]
      have more := le_ofDigitChars rest (10 * value + (c.toNat - '0'.toNat))
      split
      · rename_i noDigit
        simp_all
      · rename_i isDigit
        split
        · rename_i nextInLimit
          rw [inductionHypothesis nextInLimit]
          simp_all
        · rename_i pastLimit
          constructor
          · intro isOk
            cases isOk
          · rintro ⟨-, rfl, below⟩
            omega

private theorem not_digitsDenote_plus (rest : List Char) (value : Nat) :
    ¬ DigitsDenote ('+' :: rest) value := by
  rintro ⟨-, areDigits, -⟩
  exact absurd (areDigits '+' List.mem_cons_self) (by decide)

theorem appendDigits_zero_eq_ok_iff {limit value : Nat} {digits : List Char}
    (notEmpty : digits ≠ []) :
    appendDigits limit 0 digits = .ok value ↔ DigitsDenote digits value ∧ value ≤ limit := by
  rw [appendDigits_eq_ok_iff (Nat.zero_le limit), DigitsDenote]
  simp only [ne_eq, notEmpty, not_false_eq_true, true_and, and_assoc]

/-- **A text is read as a number exactly if it denotes one that is within the limit.** -/
theorem whole_eq_ok_iff {limit value : Nat} {text : List Char} :
    whole limit text = .ok value ↔ Denotes text value ∧ value ≤ limit := by
  have noneDenoted : ¬ DigitsDenote [] value := fun denotes => denotes.1 rfl
  unfold whole Denotes
  split
  · simp [noneDenoted]
  · simp [noneDenoted, not_digitsDenote_plus]
  · rename_i digits notEmpty
    rw [appendDigits_zero_eq_ok_iff fun isEmpty => notEmpty (by rw [isEmpty])]
    simp [not_digitsDenote_plus]
  · rename_i notEmpty _ noPlus
    rw [appendDigits_zero_eq_ok_iff notEmpty]
    have noSign : ¬ ∃ digits, text = '+' :: digits ∧ DigitsDenote digits value := by
      rintro ⟨digits, rfl, _⟩
      exact noPlus digits rfl
    simp only [noSign, or_false]

/-! ## Faults -/

/-- A text without a plus sign in front, of which there may be one. -/
def withoutPlus : List Char → List Char
  | '+' :: rest => rest
  | text => text

/-- The number that the digits at the front of a text denote; zero if there are none. -/
def leadingValue (text : List Char) : Nat :=
  Nat.ofDigitChars 10 (text.takeWhile Char.isDigit) 0

/-- What is wrong with a text. It is empty, or the digits at its front, behind a plus sign if there
is one, denote a number past the limit; in all other cases it denotes no number. -/
def WholeFault.Blames (limit : Nat) (text : List Char) : WholeFault → Prop
  | .empty => text = []
  | .tooLarge => limit < leadingValue (withoutPlus text)
  | .invalidDigit =>
      text ≠ [] ∧ leadingValue (withoutPlus text) ≤ limit ∧ ∀ value, ¬ Denotes text value

/-- Reading fails for the limit exactly if the digits before the first other character pass it. The
induction is the reading, with any number within the limit in front. -/
theorem appendDigits_eq_tooLarge_iff {limit value : Nat} (inLimit : value ≤ limit)
    (text : List Char) :
    appendDigits limit value text = .error .tooLarge ↔
      limit < Nat.ofDigitChars 10 (text.takeWhile Char.isDigit) value := by
  induction text generalizing value with
  | nil =>
      rw [appendDigits, List.takeWhile_nil, Nat.ofDigitChars_nil]
      exact iff_of_false (fun isFault => by cases isFault) (Nat.not_lt.mpr inLimit)
  | cons c rest inductionHypothesis =>
      rw [appendDigits_cons]
      split
      · rename_i noDigit
        have stops : ¬ c.isDigit = true := by simpa using noDigit
        rw [List.takeWhile_cons_of_neg stops, Nat.ofDigitChars_nil]
        exact iff_of_false (fun isFault => by cases isFault) (Nat.not_lt.mpr inLimit)
      · rename_i isDigit
        have goesOn : c.isDigit = true := by simpa using isDigit
        rw [List.takeWhile_cons_of_pos goesOn, Nat.ofDigitChars_cons]
        split
        · rename_i nextInLimit
          exact inductionHypothesis nextInLimit
        · rename_i pastLimit
          have more := le_ofDigitChars (rest.takeWhile Char.isDigit)
            (10 * value + (c.toNat - '0'.toNat))
          exact iff_of_true rfl (by omega)

private theorem appendDigits_ne_empty (limit value : Nat) (text : List Char) :
    appendDigits limit value text ≠ .error .empty := by
  induction text generalizing value with
  | nil =>
      intro isFault
      cases isFault
  | cons c rest inductionHypothesis =>
      intro isFault
      rw [appendDigits_cons] at isFault
      split at isFault
      · cases isFault
      · split at isFault
        · exact inductionHypothesis _ isFault
        · cases isFault

private theorem withoutPlus_of_ne {text : List Char} (noPlus : ∀ rest, text ≠ '+' :: rest) :
    withoutPlus text = text := by
  unfold withoutPlus
  split
  · rename_i rest
    exact absurd rfl (noPlus rest)
  · rfl

/-- A text that is not empty is read by its digits, of which there is at least one. -/
theorem whole_of_ne_nil {text : List Char} (limit : Nat) (notEmpty : text ≠ []) :
    whole limit text =
      if withoutPlus text = [] then .error .invalidDigit
      else appendDigits limit 0 (withoutPlus text) := by
  unfold whole
  split
  · exact absurd rfl notEmpty
  · rfl
  · rename_i digits more
    have someDigits : withoutPlus ('+' :: digits) ≠ [] := by
      intro isEmpty
      exact more (by rw [← isEmpty]; rfl)
    rw [if_neg someDigits]
    rfl
  · rename_i noPlus
    rw [withoutPlus_of_ne noPlus, if_neg notEmpty]

theorem whole_eq_empty_iff {limit : Nat} {text : List Char} :
    whole limit text = .error .empty ↔ text = [] := by
  constructor
  · intro isFault
    by_cases isEmpty : text = []
    · exact isEmpty
    · rw [whole_of_ne_nil limit isEmpty] at isFault
      split at isFault
      · cases isFault
      · exact absurd isFault (appendDigits_ne_empty _ _ _)
  · rintro rfl
    rfl

theorem whole_eq_tooLarge_iff {limit : Nat} {text : List Char} :
    whole limit text = .error .tooLarge ↔ limit < leadingValue (withoutPlus text) := by
  by_cases isEmpty : text = []
  · subst isEmpty
    exact iff_of_false (fun isFault => by cases isFault) (Nat.not_lt_zero limit)
  · rw [whole_of_ne_nil limit isEmpty]
    split
    · rename_i noDigits
      rw [noDigits]
      exact iff_of_false (fun isFault => by cases isFault) (Nat.not_lt_zero limit)
    · exact appendDigits_eq_tooLarge_iff (Nat.zero_le limit) _

/-- A text that denotes a number has no character but its digits behind the plus sign. -/
theorem leadingValue_of_denotes {text : List Char} {value : Nat} (denotes : Denotes text value) :
    leadingValue (withoutPlus text) = value := by
  have ofDigits : ∀ digits, DigitsDenote digits value → leadingValue digits = value := by
    rintro digits ⟨-, areDigits, isValue⟩
    rw [leadingValue, List.takeWhile_eq_self_iff.mpr areDigits, isValue]
  rcases denotes with isPlain | ⟨digits, rfl, isSigned⟩
  · have noPlus : ∀ rest, text ≠ '+' :: rest := by
      rintro rest rfl
      exact not_digitsDenote_plus rest value isPlain
    rw [withoutPlus_of_ne noPlus]
    exact ofDigits text isPlain
  · exact ofDigits digits isSigned

/-- **A text is refused exactly for what is wrong with it.** -/
theorem whole_eq_error_iff {limit : Nat} {text : List Char} {fault : WholeFault} :
    whole limit text = .error fault ↔ fault.Blames limit text := by
  cases fault with
  | empty => exact whole_eq_empty_iff
  | tooLarge => exact whole_eq_tooLarge_iff
  | invalidDigit =>
      constructor
      · intro isFault
        have notEmpty : text ≠ [] := by
          intro isEmpty
          rw [whole_eq_empty_iff.mpr isEmpty] at isFault
          cases isFault
        have inLimit : leadingValue (withoutPlus text) ≤ limit := by
          apply Nat.not_lt.mp
          intro isLarge
          rw [whole_eq_tooLarge_iff.mpr isLarge] at isFault
          cases isFault
        refine ⟨notEmpty, inLimit, ?_⟩
        intro value denotes
        rw [leadingValue_of_denotes denotes] at inLimit
        rw [whole_eq_ok_iff.mpr ⟨denotes, inLimit⟩] at isFault
        cases isFault
      · rintro ⟨notEmpty, inLimit, noNumber⟩
        cases isRead : whole limit text with
        | ok value => exact absurd (whole_eq_ok_iff.mp isRead).1 (noNumber value)
        | error fault =>
            cases fault with
            | empty => exact absurd (whole_eq_empty_iff.mp isRead) notEmpty
            | tooLarge => exact absurd (whole_eq_tooLarge_iff.mp isRead) (Nat.not_lt.mpr inLimit)
            | invalidDigit => rfl

end WebCompat.Number
