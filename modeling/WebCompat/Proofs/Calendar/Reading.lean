import WebCompat.Calendar.Date
import WebCompat.Proofs.Number.Whole
import WebCompat.Proofs.Result
import WebCompat.Proofs.Text.Scan

/-!
Which texts are dates. A date is written as three numbers with hyphens between them and white space
around each, and it is read from a text exactly if the text writes the numbers of a real day.

Owns: the days of the Gregorian calendar, told without the reading; the ways to write a date; and
that reading accepts these and no others.
-/

namespace WebCompat

/-! ## Days -/

namespace Calendar

/-- Whether year, month and day name a day of the Gregorian calendar, extended to all years. -/
structure IsGregorian (year : Int) (month day : Nat) : Prop where
  inYear : 1 ≤ month ∧ month ≤ 12
  inMonth : 1 ≤ day ∧ day ≤ 31
  shortMonth : month = 4 ∨ month = 6 ∨ month = 9 ∨ month = 11 → day ≤ 30
  february : month = 2 → day ≤ 29
  leapDay : month = 2 → day = 29 → 4 ∣ year ∧ (100 ∣ year → 400 ∣ year)

/-- The rule of the Gregorian calendar for leap years. -/
theorem isLeapYear_iff {year : Int} :
    isLeapYear year = true ↔ 4 ∣ year ∧ (100 ∣ year → 400 ∣ year) := by
  simp only [isLeapYear, Bool.and_eq_true, Bool.or_eq_true, beq_iff_eq, bne_iff_ne, ne_eq,
    Int.dvd_iff_emod_eq_zero, Decidable.imp_iff_not_or]

/-- The days are those of the calendar in the years that can be represented. -/
theorem isDay_iff {year : Int} {month day : Nat} :
    IsDay year month day ↔
      (firstYear ≤ year ∧ year ≤ lastYear) ∧ IsGregorian year month day := by
  have leap := @isLeapYear_iff year
  constructor
  · rintro ⟨first, last, january, december, firstDay, lastDay⟩
    refine ⟨⟨first, last⟩, ⟨january, december⟩, ⟨firstDay, ?_⟩, ?_, ?_, ?_⟩
    all_goals
      unfold daysInMonth at lastDay
      grind
  · rintro ⟨⟨first, last⟩, ⟨january, december⟩, ⟨firstDay, lastDay⟩, short, february, leapDay⟩
    refine ⟨first, last, january, december, firstDay, ?_⟩
    unfold daysInMonth
    grind

end Calendar

namespace Date

open Text (isBlank skipBlank)
open Number (DigitsDenote largestSigned32 largestSigned64)

/-! ## Ways to write a date -/

/-- Whether a text is white space, of which there may be none. -/
def IsGap (gap : List Char) : Prop :=
  ∀ c ∈ gap, isBlank c = true

/-- The ways to write a year: with a sign, or in four digits at most. -/
inductive WritesYear : List Char → Int → Prop where
  | unsigned {digits n} : DigitsDenote digits n → digits.length ≤ 4 → WritesYear digits n
  | plus {digits n} : DigitsDenote digits n → WritesYear ('+' :: digits) n
  | minus {digits n} : DigitsDenote digits n → WritesYear ('-' :: digits) (-n)

/-- Whether a text is a month or a day of a month: in two digits at most. -/
def WritesPart (digits : List Char) (n : Nat) : Prop :=
  DigitsDenote digits n ∧ digits.length ≤ 2

/-- The ways to write a date. White space may stand around every number, but not behind a sign. -/
inductive Writes : List Char → Int → Nat → Nat → Prop where
  | intro {front years before behind months between past days back : List Char}
      {year : Int} {month day : Nat} :
      (∀ gap ∈ [front, before, behind, between, past, back], IsGap gap) →
      WritesYear years year → WritesPart months month → WritesPart days day →
      Writes
        (front ++ (years ++ (before ++ '-' ::
          (behind ++ (months ++ (between ++ '-' :: (past ++ (days ++ back))))))))
        year month day

/-! ## Steps of the reading -/

private theorem exists_gap (s : List Char) : ∃ gap, IsGap gap ∧ s = gap ++ skipBlank s := by
  refine ⟨s.takeWhile isBlank, ?_, List.takeWhile_append_dropWhile.symm⟩
  exact fun c isMember => List.all_eq_true.mp List.all_takeWhile c isMember

private theorem skipBlank_gap {gap rest : List Char} (isGap : IsGap gap)
    (ends : ∀ c ∈ rest.head?, isBlank c = false) : skipBlank (gap ++ rest) = rest :=
  Text.dropWhile_append_of_ends isGap ends

private theorem isBlank_of_isDigit {c : Char} (isDigit : c.isDigit = true) : isBlank c = false := by
  have low : 48 ≤ c.toNat ∧ c.toNat ≤ 57 := by
    simpa [Char.isDigit, UInt32.le_iff_toNat_le] using isDigit
  simp only [isBlank, Bool.or_eq_false_iff, Bool.and_eq_false_iff, decide_eq_false_iff_not,
    beq_eq_false_iff_ne]
  omega

/-- Where digits begin, white space ends. -/
theorem isBlank_head_digits {digits : List Char} {n : Nat} (denotes : DigitsDenote digits n)
    (rest : List Char) : ∀ c ∈ (digits ++ rest).head?, isBlank c = false := by
  obtain ⟨first, others, rfl⟩ := List.exists_cons_of_ne_nil denotes.1
  intro c isHead
  cases isHead
  exact isBlank_of_isDigit (denotes.2.1 first List.mem_cons_self)

private theorem exists_of_takeNumber {width : Option Nat} {s rest : List Char} {n : Nat}
    (taken : takeNumber width s = .ok (n, rest)) :
    ∃ digits, s = digits ++ rest ∧ DigitsDenote digits n ∧
      ∀ most ∈ width, digits.length ≤ most := by
  unfold takeNumber at taken
  dsimp only at taken
  split at taken
  · cases taken
  · split at taken
    · cases taken
    · rename_i notEmpty
      split at taken
      · cases taken
      · cases taken
        refine ⟨((width.map s.take).getD s).takeWhile Char.isDigit, ?_, ⟨?_, ?_, rfl⟩, ?_⟩
        · have isPrefix : ((width.map s.take).getD s).takeWhile Char.isDigit <+: s := by
            refine (List.takeWhile_prefix _).trans ?_
            cases width with
            | none => exact List.prefix_refl s
            | some most => exact List.take_prefix most s
          exact (List.prefix_iff_eq_append.mp isPrefix).symm
        · simpa using notEmpty
        · exact fun c isMember => List.all_eq_true.mp List.all_takeWhile c isMember
        · rintro most isWidth
          cases isWidth
          exact (List.takeWhile_prefix _).length_le.trans (List.length_take_le most s)

/-- Digits are taken as a whole where no digit follows them and the width has room for them. -/
theorem takeNumber_of_denotes {width : Option Nat} {digits rest : List Char} {n : Nat}
    (denotes : DigitsDenote digits n) (short : ∀ most ∈ width, digits.length ≤ most)
    (stops : ∀ c ∈ rest.head?, c.isDigit = false) (inRange : n ≤ largestSigned64) :
    takeNumber width (digits ++ rest) = .ok (n, rest) := by
  obtain ⟨notEmpty, areDigits, isValue⟩ := denotes
  have taken : (((width.map (digits ++ rest).take).getD (digits ++ rest)).takeWhile
      Char.isDigit) = digits := by
    cases width with
    | none => exact Text.takeWhile_append_of_ends areDigits stops
    | some most =>
        rw [Option.map_some, Option.getD_some, List.take_append,
          List.take_of_length_le (short most rfl)]
        apply Text.takeWhile_append_of_ends areDigits
        intro c isHead
        rw [List.head?_take] at isHead
        split at isHead
        · cases isHead
        · exact stops c isHead
  have isNumber : digitsValue digits = n := isValue
  unfold takeNumber
  dsimp only
  rw [taken, isNumber, if_neg (by simp [notEmpty]), if_neg (by simpa using notEmpty),
    if_neg (Nat.not_lt.mpr inRange), List.drop_left]

private theorem exists_of_takePart {s rest : List Char} {n : Nat}
    (taken : takePart s = .ok (n, rest)) :
    ∃ gap digits, s = gap ++ (digits ++ rest) ∧ IsGap gap ∧ WritesPart digits n := by
  obtain ⟨gap, isGap, split⟩ := exists_gap s
  obtain ⟨digits, isRest, denotes, short⟩ := exists_of_takeNumber taken
  exact ⟨gap, digits, by rw [← isRest, ← split], isGap, denotes, short 2 rfl⟩

section Writing

variable {gap digits rest : List Char}

private theorem takePart_of_writes {n : Nat} (isGap : IsGap gap) (writes : WritesPart digits n)
    (stops : ∀ c ∈ rest.head?, c.isDigit = false) (inRange : n ≤ largestSigned64) :
    takePart (gap ++ (digits ++ rest)) = .ok (n, rest) := by
  rw [takePart, skipBlank_gap isGap (isBlank_head_digits writes.1 rest)]
  apply takeNumber_of_denotes writes.1 _ stops inRange
  rintro most isWidth
  cases isWidth
  exact writes.2

theorem takeHyphen_eq_ok_iff {s rest : List Char} :
    takeHyphen s = .ok rest ↔ ∃ gap, s = gap ++ '-' :: rest ∧ IsGap gap := by
  constructor
  · intro taken
    obtain ⟨gap, isGap, split⟩ := exists_gap s
    unfold takeHyphen at taken
    split at taken
    · cases taken
    · rename_i isRest
      cases taken
      exact ⟨gap, by rw [← isRest, ← split], isGap⟩
    · cases taken
  · rintro ⟨gap, rfl, isGap⟩
    have ends : ∀ c ∈ ('-' :: rest).head?, isBlank c = false := by
      intro c isHead
      cases isHead
      decide
    rw [takeHyphen, skipBlank_gap isGap ends]
    rfl

private theorem exists_of_takeYear {s rest : List Char} {year : Int}
    (taken : takeYear s = .ok (year, rest)) :
    ∃ gap years, s = gap ++ (years ++ rest) ∧ IsGap gap ∧ WritesYear years year := by
  obtain ⟨gap, isGap, split⟩ := exists_gap s
  unfold takeYear at taken
  split at taken
  all_goals
    obtain ⟨⟨n, behind⟩, isTaken, same⟩ := map_eq_ok_iff.mp taken
    cases same
    obtain ⟨digits, isBehind, denotes, short⟩ := exists_of_takeNumber isTaken
  · rename_i isSigned
    refine ⟨gap, '-' :: digits, ?_, isGap, .minus denotes⟩
    rw [List.cons_append, ← isBehind, ← isSigned, ← split]
  · rename_i isSigned
    refine ⟨gap, '+' :: digits, ?_, isGap, .plus denotes⟩
    rw [List.cons_append, ← isBehind, ← isSigned, ← split]
  · exact ⟨gap, digits, by rw [← isBehind, ← split], isGap, .unsigned denotes (short 4 rfl)⟩

/-- A year that begins with a digit is read without a sign. -/
theorem takeYear_of_digits {n : Nat} (isGap : IsGap gap) (denotes : DigitsDenote digits n) :
    takeYear (gap ++ (digits ++ rest)) =
      (takeNumber (some 4) (digits ++ rest)).map fun taken => ((taken.1 : Int), taken.2) := by
  unfold takeYear
  rw [skipBlank_gap isGap (isBlank_head_digits denotes rest)]
  obtain ⟨first, others, rfl⟩ := List.exists_cons_of_ne_nil denotes.1
  have isDigit := denotes.2.1 first List.mem_cons_self
  split
  · rename_i isSigned
    cases isSigned
    cases isDigit
  · rename_i isSigned
    cases isSigned
    cases isDigit
  · rfl

private theorem takeYear_of_writes {years : List Char} {year : Int} (isGap : IsGap gap)
    (writes : WritesYear years year) (stops : ∀ c ∈ rest.head?, c.isDigit = false)
    (inRange : year.natAbs ≤ largestSigned64) :
    takeYear (gap ++ (years ++ rest)) = .ok (year, rest) := by
  have behindSign : ∀ sign, isBlank sign = false → ∀ text,
      skipBlank (gap ++ (sign :: text)) = sign :: text := by
    intro sign notBlank text
    apply skipBlank_gap isGap
    intro c isHead
    cases isHead
    exact notBlank
  cases writes with
  | unsigned denotes short =>
      rw [takeYear_of_digits isGap denotes, map_eq_ok_iff]
      refine ⟨_, takeNumber_of_denotes denotes ?_ stops inRange, rfl⟩
      rintro most isWidth
      cases isWidth
      exact short
  | plus denotes =>
      rw [List.cons_append, takeYear, behindSign '+' (by decide)]
      exact map_eq_ok_iff.mpr ⟨_, takeNumber_of_denotes denotes nofun stops inRange, rfl⟩
  | minus denotes =>
      rw [Int.natAbs_neg, Int.natAbs_natCast] at inRange
      rw [List.cons_append, takeYear, behindSign '-' (by decide)]
      exact map_eq_ok_iff.mpr ⟨_, takeNumber_of_denotes denotes nofun stops inRange, rfl⟩

end Writing

/-! ## Whole texts -/

theorem within_eq_ok_iff {low high n : Int} :
    within low high n = .ok () ↔ low ≤ n ∧ n ≤ high := by
  unfold within
  split <;> simp_all

private theorem isDigit_of_isBlank {c : Char} (blank : isBlank c = true) : c.isDigit = false := by
  cases isDigit : c.isDigit with
  | false => rfl
  | true =>
      rw [isBlank_of_isDigit isDigit] at blank
      cases blank

/-- Digits stop at white space, and at what stops them behind it. -/
theorem stops_of_isGap {gap rest : List Char} (isGap : IsGap gap)
    (stops : ∀ c ∈ rest.head?, c.isDigit = false) :
    ∀ c ∈ (gap ++ rest).head?, c.isDigit = false := by
  intro c isHead
  cases gap with
  | nil => exact stops c isHead
  | cons first others =>
      rw [List.cons_append, List.head?_cons, Option.mem_some_iff] at isHead
      rw [← isHead]
      exact isDigit_of_isBlank (isGap first List.mem_cons_self)

private theorem stops_hyphen (rest : List Char) : ∀ c ∈ ('-' :: rest).head?, c.isDigit = false := by
  intro c isHead
  cases isHead
  decide

/-- A date that is written is read. -/
theorem ofChars_of_writes {text : List Char} {year : Int} {month day : Nat}
    (writes : Writes text year month day) (isDay : Calendar.IsDay year month day) :
    ofChars text = .ok ⟨year, month, day, isDay⟩ := by
  cases writes with
  | intro gaps writesYear writesMonth writesDay =>
      obtain ⟨⟨first, last⟩, january, firstDay, -⟩ := Calendar.isDay_iff.mp isDay
      simp only [Calendar.firstYear, Calendar.lastYear] at first last
      simp only [List.forall_mem_cons] at gaps
      obtain ⟨isFront, isBefore, isBehind, isBetween, isPast, isBack, -⟩ := gaps
      have yearFits : within (-largestSigned32 - 1) largestSigned32 year = .ok () :=
        within_eq_ok_iff.mpr (by simp only [largestSigned32]; omega)
      have monthFits : within 1 12 month = .ok () := within_eq_ok_iff.mpr (by omega)
      have dayFits : within 1 31 day = .ok () := within_eq_ok_iff.mpr (by omega)
      have yearInRange : year.natAbs ≤ largestSigned64 := by
        simp only [largestSigned64]
        omega
      have partInRange : ∀ n, n ≤ 31 → n ≤ largestSigned64 := by
        simp only [largestSigned64]
        omega
      have toBack := @skipBlank_gap _ [] isBack nofun
      rw [List.append_nil] at toBack
      rw [ofChars]
      refine bind_eq_ok_iff.mpr ⟨_, takeYear_of_writes isFront writesYear
        (stops_of_isGap isBefore (stops_hyphen _)) yearInRange, ?_⟩
      refine bind_eq_ok_iff.mpr ⟨(), yearFits, ?_⟩
      refine bind_eq_ok_iff.mpr ⟨_, takeHyphen_eq_ok_iff.mpr ⟨_, rfl, isBefore⟩, ?_⟩
      refine bind_eq_ok_iff.mpr ⟨_, takePart_of_writes isBehind writesMonth
        (stops_of_isGap isBetween (stops_hyphen _)) (partInRange _ (by omega)), ?_⟩
      refine bind_eq_ok_iff.mpr ⟨(), monthFits, ?_⟩
      refine bind_eq_ok_iff.mpr ⟨_, takeHyphen_eq_ok_iff.mpr ⟨_, rfl, isBetween⟩, ?_⟩
      refine bind_eq_ok_iff.mpr ⟨_, takePart_of_writes isPast writesDay ?_
        (partInRange _ firstDay.2), ?_⟩
      · simpa using @stops_of_isGap _ [] isBack nofun
      refine bind_eq_ok_iff.mpr ⟨(), dayFits, ?_⟩
      dsimp only
      rw [toBack, if_pos List.isEmpty_nil, dif_pos isDay]

/-- **A text is read as a date exactly if it writes the date.** -/
theorem ofChars_eq_ok_iff {text : List Char} {date : Date} :
    ofChars text = .ok date ↔ Writes text date.year date.month date.day := by
  constructor
  · intro isRead
    simp only [ofChars, bind_eq_ok_iff, Prod.exists] at isRead
    obtain ⟨year, afterYear, isYear, -, -, toMonth, isFirst, month, afterMonth, isMonth, -, -,
      toDay, isSecond, day, afterDay, isDay, -, -, isDate⟩ := isRead
    split at isDate
    · rename_i isEnd
      split at isDate
      · cases isDate
        obtain ⟨front, years, rfl, isFront, writesYear⟩ := exists_of_takeYear isYear
        obtain ⟨before, rfl, isBefore⟩ := takeHyphen_eq_ok_iff.mp isFirst
        obtain ⟨behind, months, rfl, isBehind, writesMonth⟩ := exists_of_takePart isMonth
        obtain ⟨between, rfl, isBetween⟩ := takeHyphen_eq_ok_iff.mp isSecond
        obtain ⟨past, days, rfl, isPast, writesDay⟩ := exists_of_takePart isDay
        obtain ⟨back, isBack, isRest⟩ := exists_gap afterDay
        rw [List.isEmpty_iff.mp isEnd, List.append_nil] at isRest
        subst isRest
        refine .intro ?_ writesYear writesMonth writesDay
        simp only [List.forall_mem_cons]
        exact ⟨isFront, isBefore, isBehind, isBetween, isPast, isBack, nofun⟩
      · cases isDate
    · cases isDate
  · exact fun writes => ofChars_of_writes writes date.isDay

/-- Whether a text writes a date. -/
def IsWrittenIn (date : Date) (text : String) : Prop :=
  Writes text.toList date.year date.month date.day

/-- **Reading a date** accepts the texts that write a day, and no others. -/
theorem ofString_eq_ok_iff {text : String} {date : Date} :
    ofString text = .ok date ↔ date.IsWrittenIn text :=
  ofChars_eq_ok_iff

/-- Every date that can be represented is a day of the Gregorian calendar. -/
theorem isGregorian (date : Date) : Calendar.IsGregorian date.year date.month date.day :=
  (Calendar.isDay_iff.mp date.isDay).2

end Date

end WebCompat
