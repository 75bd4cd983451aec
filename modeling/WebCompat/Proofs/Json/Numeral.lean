import WebCompat.Proofs.Json.Tree

/-!
Numbers: what the readers take is what the grammar allows. They take as much as they can, so that
what stands behind a number must not go on with it.

Owns: the outcome of the readers of the parts of a number; that what they take is written by the
grammar; and that what is so written is taken, in front of anything that ends a number.
-/

namespace WebCompat.Json

open WebCompat.Text (Taken)
open Reader (take?)

/-! ## Digits -/

/-- Whether a character behind a number could be part of it. -/
def continuesNumber (c : Char) : Bool :=
  c.isDigit || c = '.' || isPowerLetter c

/-- Whether a number can end in front of a text. -/
def Breaks (rest : List Char) : Prop :=
  ∀ c ∈ rest.head?, continuesNumber c = false

theorem Breaks.head {rest : List Char} (breaks : Breaks rest) {c : Char} (isHead : c ∈ rest.head?) :
    c.isDigit = false ∧ c ≠ '.' ∧ isPowerLetter c = false := by
  have notContinued := breaks c isHead
  simp only [continuesNumber, Bool.or_eq_false_iff, decide_eq_false_iff_not] at notContinued
  exact ⟨notContinued.1.1, notContinued.1.2, notContinued.2⟩

private theorem not_isDigit_of_isPowerLetter {c : Char} (isLetter : isPowerLetter c = true) :
    c.isDigit = false := by
  rcases (by simpa [isPowerLetter] using isLetter : c = 'e' ∨ c = 'E') with rfl | rfl <;> rfl

section Digits

variable {atEnd : Cause} {text rest digits : List Char}

theorem take?_digits (c : Char) (rest : List Char) :
    take? (Json.digits atEnd) (c :: rest) =
      if c.isDigit then some (c :: rest.takeWhile Char.isDigit, rest.dropWhile Char.isDigit)
      else none := by
  unfold take? Json.digits
  by_cases isDigit : c.isDigit <;> simp [isDigit]

private theorem exists_of_digits (taken : take? (Json.digits atEnd) text = some (digits, rest)) :
    text = digits ++ rest ∧ IsDigits digits := by
  cases text with
  | nil => cases taken
  | cons c behind =>
      rw [take?_digits] at taken
      by_cases isDigit : c.isDigit
      · rw [if_pos isDigit] at taken
        cases taken
        refine ⟨by simp, by simp, ?_⟩
        intro other member
        rcases List.mem_cons.mp member with rfl | later
        · exact isDigit
        · exact List.all_eq_true.mp List.all_takeWhile other later
      · rw [if_neg isDigit] at taken
        cases taken

theorem take?_digits_append (isDigits : IsDigits digits)
    (ends : ∀ c ∈ rest.head?, c.isDigit = false) :
    take? (Json.digits atEnd) (digits ++ rest) = some (digits, rest) := by
  obtain ⟨c, more, rfl⟩ := List.exists_cons_of_ne_nil isDigits.notEmpty
  have digit := isDigits.digit
  rw [List.forall_mem_cons] at digit
  have stops : rest.takeWhile Char.isDigit = [] ∧ rest.dropWhile Char.isDigit = rest := by
    cases rest with
    | nil => simp
    | cons d rest => simp [ends d rfl]
  rw [List.cons_append, take?_digits, if_pos digit.1, List.takeWhile_append_of_pos digit.2,
    List.dropWhile_append_of_pos digit.2, stops.1, stops.2, List.append_nil]

/-- Digits of which the first is zero, with others behind it. -/
def HasNeedlessZero (digits : List Char) : Prop :=
  ∃ c more, digits = '0' :: c :: more

theorem isWhole_iff : IsWhole digits ↔ IsDigits digits ∧ ¬ HasNeedlessZero digits := by
  constructor
  · intro isWhole
    refine ⟨isWhole.toIsDigits, ?_⟩
    rintro ⟨c, more, rfl⟩
    cases isWhole.zeroAlone rfl
  · rintro ⟨isDigits, noZero⟩
    refine ⟨isDigits, fun isZero => ?_⟩
    cases digits with
    | nil => cases isZero
    | cons c more =>
        cases isZero
        cases more with
        | nil => rfl
        | cons d more => exact absurd ⟨d, more, rfl⟩ noZero

theorem take?_wholeDigits :
    take? (wholeDigits atEnd) text = some (digits, rest) ↔
      take? (Json.digits atEnd) text = some (digits, rest) ∧ ¬ HasNeedlessZero digits := by
  unfold take? wholeDigits
  cases isTaken : Json.digits atEnd text with
  | error fault => simp
  | ok taken =>
      have notEmpty : text ≠ [] := List.ne_nil_of_length_pos (Nat.zero_lt_of_lt taken.shorter)
      obtain ⟨first, behind, rfl⟩ := List.exists_cons_of_ne_nil notEmpty
      obtain ⟨value, left, shorter⟩ := taken
      match value, isTaken with
      | [], _ | [_], _ =>
          simp only [Option.some.injEq, Prod.mk.injEq, iff_self_and, and_imp]
          rintro rfl rfl ⟨_, _, isZero⟩
          cases isZero
      | c :: d :: more, _ =>
          by_cases isZero : c = '0'
          · subst isZero
            simp only [reduceCtorEq, Option.some.injEq, Prod.mk.injEq, false_iff, not_and, not_not]
            rintro ⟨rfl, rfl⟩
            exact ⟨d, more, rfl⟩
          · have noZero : c :: d :: more = digits → left = rest → ¬ HasNeedlessZero digits := by
              rintro rfl rfl ⟨_, _, same⟩
              cases same
              exact isZero rfl
            simpa [isZero] using noZero

end Digits

/-! ## The parts of a number -/

section Parts

variable {atEnd : Cause} {text rest : List Char}

/-- What an optional part of a number takes, and what it leaves. -/
def continued? {α : Type} (result : Except Fault (Continued α text)) : Option (α × List Char) :=
  match result with
  | .error _ => none
  | .ok part => some (part.value, part.rest)

private theorem exists_of_fraction {value : List Char}
    (taken : continued? (fraction atEnd text) = some (value, rest)) :
    ∃ point, FractionWritten value point ∧ text = point ++ rest := by
  unfold fraction at taken
  split at taken
  · rename_i behind
    cases isFound : digits atEnd behind with
    | error fault =>
        rw [isFound] at taken
        cases taken
    | ok found =>
        rw [isFound] at taken
        cases taken
        obtain ⟨split, isDigits⟩ := exists_of_digits (Reader.take?_eq_some_iff.mpr ⟨_, isFound⟩)
        exact ⟨_, .present isDigits, congrArg ('.' :: ·) split⟩
  · cases taken
    exact ⟨[], .absent, rfl⟩

private theorem continued?_fraction_append {value point : List Char}
    (written : FractionWritten value point) (ends : ∀ c ∈ rest.head?, c.isDigit = false ∧ c ≠ '.') :
    continued? (fraction atEnd (point ++ rest)) = some (value, rest) := by
  cases written with
  | absent =>
      rw [List.nil_append]
      unfold fraction
      split
      · exact absurd rfl (ends '.' rfl).2
      · rfl
  | present isDigits =>
      have areTaken : take? (digits atEnd) (value ++ rest) = some (value, rest) :=
        take?_digits_append isDigits fun c isHead => (ends c isHead).1
      obtain ⟨shorter, isTaken⟩ := Reader.take?_eq_some_iff.mp areTaken
      rw [List.cons_append, fraction, isTaken]
      rfl

private theorem exists_of_exponentDigits {power : Bool × List Char}
    (taken : take? (exponentDigits atEnd) text = some (power, rest)) :
    ∃ written, text = written ++ rest ∧
      ∀ letter, isPowerLetter letter = true → PowerWritten (some power) (letter :: written) := by
  obtain ⟨_, isTaken⟩ := Reader.take?_eq_some_iff.mp taken
  unfold exponentDigits at isTaken
  have isDigits : ∀ {behind : List Char} {found : Taken (List Char) behind},
      digits atEnd behind = .ok found →
        behind = found.value ++ found.rest ∧ IsDigits found.value := fun isFound =>
    exists_of_digits (Reader.take?_eq_some_iff.mpr ⟨_, isFound⟩)
  split at isTaken <;> split at isTaken
  · cases isTaken
  · rename_i isFound
    cases isTaken
    obtain ⟨split, areDigits⟩ := isDigits isFound
    exact ⟨_, congrArg ('+' :: ·) split, fun _ isLetter => .plus isLetter areDigits⟩
  · cases isTaken
  · rename_i isFound
    cases isTaken
    obtain ⟨split, areDigits⟩ := isDigits isFound
    exact ⟨_, congrArg ('-' :: ·) split, fun _ isLetter => .minus isLetter areDigits⟩
  · cases isTaken
  · rename_i isFound
    cases isTaken
    obtain ⟨split, areDigits⟩ := isDigits isFound
    exact ⟨_, split, fun _ isLetter => .unsigned isLetter areDigits⟩

private theorem append_ne_cons_of_isDigits {digits : List Char} (isDigits : IsDigits digits)
    {c : Char}
    (notDigit : c.isDigit = false) (behind : List Char) : digits ++ rest ≠ c :: behind := by
  obtain ⟨first, more, rfl⟩ := List.exists_cons_of_ne_nil isDigits.notEmpty
  intro same
  cases same
  rw [isDigits.digit c List.mem_cons_self] at notDigit
  cases notDigit

/-- Without a sign the digits come at once. -/
theorem take?_exponentDigits_of_ne {behind : List Char} (notPlus : ∀ more, behind ≠ '+' :: more)
    (notMinus : ∀ more, behind ≠ '-' :: more) :
    take? (exponentDigits atEnd) behind =
      (take? (digits atEnd) behind).map fun taken => ((false, taken.1), taken.2) := by
  unfold take?
  rw [exponentDigits]
  · cases digits atEnd behind <;> rfl
  · exact fun more same => notPlus more same
  · exact fun more same => notMinus more same

theorem take?_exponentDigits_append {letter : Char} {power : Bool × List Char}
    {written : List Char} (isWritten : PowerWritten (some power) (letter :: written))
    (ends : ∀ c ∈ rest.head?, c.isDigit = false) :
    take? (exponentDigits atEnd) (written ++ rest) = some (power, rest) := by
  have isTaken : ∀ {digits : List Char}, IsDigits digits →
      take? (Json.digits atEnd) (digits ++ rest) = some (digits, rest) := fun isDigits =>
    take?_digits_append isDigits ends
  cases isWritten with
  | unsigned _ isDigits =>
      rw [take?_exponentDigits_of_ne (append_ne_cons_of_isDigits isDigits rfl)
        (append_ne_cons_of_isDigits isDigits rfl), isTaken isDigits]
      rfl
  | plus _ isDigits =>
      obtain ⟨shorter, areTaken⟩ := Reader.take?_eq_some_iff.mp (isTaken isDigits)
      unfold take?
      rw [List.cons_append, exponentDigits, areTaken]
      rfl
  | minus _ isDigits =>
      obtain ⟨shorter, areTaken⟩ := Reader.take?_eq_some_iff.mp (isTaken isDigits)
      unfold take?
      rw [List.cons_append, exponentDigits, areTaken]
      rfl

private theorem continued?_exponent (c : Char) (behind : List Char) :
    continued? (exponent atEnd (c :: behind)) =
      if isPowerLetter c then
        (take? (exponentDigits atEnd) behind).map fun taken => (some taken.1, taken.2)
      else some (none, c :: behind) := by
  unfold continued? exponent take? isPowerLetter
  dsimp only
  by_cases isLetter : (c = 'e' || c = 'E') = true
  · rw [if_pos isLetter, if_pos isLetter]
    cases exponentDigits atEnd behind <;> rfl
  · rw [if_neg isLetter, if_neg isLetter]

private theorem exists_of_exponent {value : Option (Bool × List Char)}
    (taken : continued? (exponent atEnd text) = some (value, rest)) :
    ∃ power, PowerWritten value power ∧ text = power ++ rest := by
  cases text with
  | nil =>
      cases taken
      exact ⟨[], .absent, rfl⟩
  | cons c behind =>
      rw [continued?_exponent] at taken
      by_cases isLetter : isPowerLetter c
      · rw [if_pos isLetter] at taken
        obtain ⟨found, isFound, same⟩ := Option.map_eq_some_iff.mp taken
        cases same
        obtain ⟨written, split, isWritten⟩ := exists_of_exponentDigits isFound
        exact ⟨_, isWritten c isLetter, congrArg (c :: ·) split⟩
      · rw [if_neg isLetter] at taken
        cases taken
        exact ⟨[], .absent, rfl⟩

private theorem continued?_exponent_append {value : Option (Bool × List Char)} {power : List Char}
    (written : PowerWritten value power) (breaks : Breaks rest) :
    continued? (exponent atEnd (power ++ rest)) = some (value, rest) := by
  have withLetter : ∀ {letter behind power}, isPowerLetter letter = true →
      PowerWritten (some power) (letter :: behind) →
      continued? (exponent atEnd (letter :: behind ++ rest)) = some (some power, rest) := by
    intro letter behind power isLetter isWritten
    rw [List.cons_append, continued?_exponent, if_pos isLetter,
      take?_exponentDigits_append isWritten fun c isHead => (breaks.head isHead).1]
    rfl
  cases written with
  | absent =>
      cases rest with
      | nil => rfl
      | cons c rest =>
          rw [List.nil_append, continued?_exponent, (breaks.head rfl).2.2]
          rfl
  | unsigned isLetter isDigits => exact withLetter isLetter (.unsigned isLetter isDigits)
  | plus isLetter isDigits => exact withLetter isLetter (.plus isLetter isDigits)
  | minus isLetter isDigits => exact withLetter isLetter (.minus isLetter isDigits)

end Parts

/-! ## Numbers -/

section Numerals

variable {atEnd : Cause} {text rest : List Char}

theorem take?_numeral (text : List Char) :
    take? (numeral atEnd) text =
      (take? (wholeDigits atEnd) text).bind fun whole =>
        (continued? (fraction atEnd whole.2)).bind fun part =>
          (continued? (exponent atEnd part.2)).map fun power =>
            (⟨whole.1, part.1, power.1⟩, power.2) := by
  unfold take? numeral
  cases wholeDigits atEnd text with
  | error fault => rfl
  | ok whole =>
      dsimp only [Option.bind_some]
      cases fraction atEnd whole.rest with
      | error fault => rfl
      | ok part =>
          dsimp only [continued?, Option.bind_some]
          cases exponent atEnd part.rest <;> rfl

/-- A number that was taken is written in one of the ways to write numbers. -/
theorem exists_of_numeral {n : Numeral} (taken : take? (numeral atEnd) text = some (n, rest)) :
    ∃ chars, n.Written chars ∧ text = chars ++ rest := by
  rw [take?_numeral] at taken
  obtain ⟨⟨whole, behindWhole⟩, isWhole, later⟩ := Option.bind_eq_some_iff.mp taken
  obtain ⟨⟨part, behindPart⟩, isPart, last⟩ := Option.bind_eq_some_iff.mp later
  obtain ⟨⟨power, _⟩, isPower, same⟩ := Option.map_eq_some_iff.mp last
  cases same
  obtain ⟨areDigits, noZero⟩ := take?_wholeDigits.mp isWhole
  obtain ⟨rfl, isDigits⟩ := exists_of_digits areDigits
  obtain ⟨point, pointWritten, splitPoint⟩ := exists_of_fraction isPart
  obtain ⟨letters, powerWritten, splitPower⟩ := exists_of_exponent isPower
  refine ⟨_, .intro (isWhole_iff.mpr ⟨isDigits, noZero⟩) pointWritten powerWritten, ?_⟩
  dsimp only at splitPoint splitPower ⊢
  rw [splitPoint, splitPower, List.append_assoc, List.append_assoc]

/-- In front of what ends a number, nothing that may be behind its point is a digit or a point. -/
theorem PowerWritten.head {power : Option (Bool × List Char)} {letters : List Char}
    (written : PowerWritten power letters) (breaks : Breaks rest) :
    ∀ c ∈ (letters ++ rest).head?, c.isDigit = false ∧ c ≠ '.' := by
  have ofLetter : ∀ {letter : Char}, isPowerLetter letter = true →
      letter.isDigit = false ∧ letter ≠ '.' := by
    intro letter isLetter
    refine ⟨not_isDigit_of_isPowerLetter isLetter, ?_⟩
    rintro rfl
    cases isLetter
  intro c isHead
  cases written with
  | absent => exact ⟨(breaks.head isHead).1, (breaks.head isHead).2.1⟩
  | unsigned isLetter _ | plus isLetter _ | minus isLetter _ =>
      cases isHead
      exact ofLetter isLetter

/-- A number is taken if it is written so and what follows cannot be part of it. -/
theorem take?_numeral_append {n : Numeral} {chars : List Char} (written : n.Written chars)
    (breaks : Breaks rest) : take? (numeral atEnd) (chars ++ rest) = some (n, rest) := by
  cases written with
  | intro isWhole pointWritten powerWritten =>
      rename_i whole value letters point power
      have endsPoint := powerWritten.head breaks
      have endsWhole : ∀ c ∈ (point ++ (letters ++ rest)).head?, c.isDigit = false := by
        intro c isHead
        cases pointWritten with
        | absent => exact (endsPoint c isHead).1
        | present _ =>
            cases isHead
            rfl
      have wholeTaken : take? (wholeDigits atEnd) (whole ++ (point ++ (letters ++ rest))) = _ :=
        take?_wholeDigits.mpr
          ⟨take?_digits_append isWhole.toIsDigits endsWhole, (isWhole_iff.mp isWhole).2⟩
      rw [take?_numeral, List.append_assoc, List.append_assoc, wholeTaken, Option.bind_some,
        continued?_fraction_append pointWritten endsPoint, Option.bind_some,
        continued?_exponent_append powerWritten breaks]
      rfl

theorem take?_number (isNegative : Bool) (text : List Char) :
    take? (number isNegative) text =
      (take? (numeral .endInValue) text).bind fun taken =>
        (taken.1.number? isNegative).map fun value => (value, taken.2) := by
  unfold take? number
  cases numeral .endInValue text with
  | error fault => rfl
  | ok taken =>
      dsimp only [Option.bind_some]
      cases taken.value.number? isNegative <;> rfl

end Numerals

end WebCompat.Json
