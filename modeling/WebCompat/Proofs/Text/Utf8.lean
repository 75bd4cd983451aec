import Mathlib.Tactic.SplitIfs
import WebCompat.Text.Utf8

/-!
Decoding is the inverse of encoding: bytes are read as a text exactly if they are the bytes of
that text.
-/

namespace WebCompat.Text

/-! ## One character -/

section Continuation

variable {bits : Nat} {low high : UInt8} {c : Char} {rest : List UInt8}

theorem takeContinuation_zero_iff {bytes : List UInt8} :
    takeContinuation bits low high 0 bytes = (some c, rest) ↔
      Char.ofNat bits = c ∧ bytes = rest := by
  simp [takeContinuation]

theorem takeContinuation_succ_iff {count : Nat} {bytes : List UInt8} :
    takeContinuation bits low high (count + 1) bytes = (some c, rest) ↔
      ∃ b others, bytes = b :: others ∧ low.toNat ≤ b.toNat ∧ b.toNat ≤ high.toNat ∧
        takeContinuation (bits * 64 + b.toNat % 64) 0x80 0xBF count others = (some c, rest) := by
  cases bytes with
  | nil => simp [takeContinuation]
  | cons b others =>
      simp only [takeContinuation, UInt8.le_iff_toNat_le, List.cons.injEq]
      split
      · rename_i inBounds
        constructor
        · exact fun taken => ⟨b, others, ⟨rfl, rfl⟩, inBounds.1, inBounds.2, taken⟩
        · rintro ⟨_, _, ⟨rfl, rfl⟩, _, _, taken⟩
          exact taken
      · rename_i outOfBounds
        constructor
        · intro taken
          cases taken
        · rintro ⟨_, _, ⟨rfl, rfl⟩, above, below, _⟩
          exact absurd ⟨above, below⟩ outOfBounds

end Continuation

private theorem toNat_ofNat {n : Nat} (isValid : n.isValidChar) : (Char.ofNat n).val.toNat = n := by
  rw [Char.ofNat, dif_pos isValid]
  rfl

/-- The sequence of a character, by the number of its bytes. -/
theorem utf8EncodeChar_ofNat {n : Nat} (isValid : n.isValidChar) :
    String.utf8EncodeChar (Char.ofNat n) =
      if n ≤ 0x7F then [UInt8.ofNat n]
      else if n ≤ 0x7FF then [UInt8.ofNat (n / 64 % 32 + 192), UInt8.ofNat (n % 64 + 128)]
      else if n ≤ 0xFFFF then
        [UInt8.ofNat (n / 4096 % 16 + 224), UInt8.ofNat (n / 64 % 64 + 128),
          UInt8.ofNat (n % 64 + 128)]
      else
        [UInt8.ofNat (n / 262144 % 8 + 240), UInt8.ofNat (n / 4096 % 64 + 128),
          UInt8.ofNat (n / 64 % 64 + 128), UInt8.ofNat (n % 64 + 128)] := by
  unfold String.utf8EncodeChar
  rw [toNat_ofNat isValid]

section Sequence

variable {n : Nat} {first second third fourth : UInt8} (rest : List UInt8)

private theorem cons_eq_encoded_of_two (low : 0x7F < n) (high : n ≤ 0x7FF)
    (isFirst : first.toNat = n / 64 + 0xC0) (isSecond : second.toNat = n % 64 + 0x80) :
    first :: second :: rest = String.utf8EncodeChar (Char.ofNat n) ++ rest := by
  rw [utf8EncodeChar_ofNat (.inl (by omega)), if_neg (by omega), if_pos high]
  simp [← UInt8.toNat_inj]
  omega

private theorem cons_eq_encoded_of_three (isValid : n.isValidChar) (low : 0x7FF < n)
    (high : n ≤ 0xFFFF)
    (isFirst : first.toNat = n / 4096 + 0xE0) (isSecond : second.toNat = n / 64 % 64 + 0x80)
    (isThird : third.toNat = n % 64 + 0x80) :
    first :: second :: third :: rest = String.utf8EncodeChar (Char.ofNat n) ++ rest := by
  rw [utf8EncodeChar_ofNat isValid, if_neg (by omega), if_neg (by omega), if_pos high]
  simp [← UInt8.toNat_inj]
  omega

private theorem cons_eq_encoded_of_four (low : 0xFFFF < n) (high : n < 0x110000)
    (isFirst : first.toNat = n / 262144 + 0xF0) (isSecond : second.toNat = n / 4096 % 64 + 0x80)
    (isThird : third.toNat = n / 64 % 64 + 0x80) (isFourth : fourth.toNat = n % 64 + 0x80) :
    first :: second :: third :: fourth :: rest =
      String.utf8EncodeChar (Char.ofNat n) ++ rest := by
  rw [utf8EncodeChar_ofNat (.inr (by omega)), if_neg (by omega), if_neg (by omega),
    if_neg (by omega)]
  simp [← UInt8.toNat_inj]
  omega

end Sequence

/-- What is taken as one character is the sequence of that character. -/
theorem encoded_of_takeCharacter {first : UInt8} {rest others : List UInt8} {c : Char}
    (taken : takeCharacter first rest = (some c, others)) :
    first :: rest = String.utf8EncodeChar c ++ others := by
  unfold takeCharacter at taken
  cases isNext : continuation? first with
  | none =>
      rw [isNext] at taken
      cases taken
  | some next =>
      rw [isNext] at taken
      unfold continuation? at isNext
      dsimp only at taken isNext
      repeat' split at isNext
      all_goals cases isNext
      all_goals
        simp only [takeContinuation_succ_iff, takeContinuation_zero_iff, UInt8.reduceToNat]
          at taken
      · obtain ⟨rfl, rfl⟩ := taken
        rw [utf8EncodeChar_ofNat (.inl (by omega)), if_pos (by omega)]
        simp
      · obtain ⟨second, _, rfl, _, _, rfl, rfl⟩ := taken
        apply cons_eq_encoded_of_two <;> omega
      -- Three bytes: what has fewer and the surrogates are left out by bounds of the second.
      iterate 3
        · obtain ⟨second, _, rfl, _, _, third, _, rfl, _, _, rfl, rfl⟩ := taken
          apply cons_eq_encoded_of_three <;> omega
      -- Four bytes, up to the last character.
      iterate 3
        · obtain ⟨second, _, rfl, _, _, third, _, rfl, _, _, fourth, _, rfl, _, _, rfl, rfl⟩ :=
            taken
          apply cons_eq_encoded_of_four <;> omega

section Sequence

variable {n : Nat} {first second third fourth : UInt8} (rest : List UInt8)

private theorem takeCharacter_of_two (low : 0x7F < n) (high : n ≤ 0x7FF)
    (isFirst : first.toNat = n / 64 + 0xC0) (isSecond : second.toNat = n % 64 + 0x80) :
    takeCharacter first (second :: rest) = (some (Char.ofNat n), rest) := by
  unfold takeCharacter continuation?
  dsimp only
  rw [if_neg (by omega), if_pos (by omega)]
  simp only [takeContinuation_succ_iff, takeContinuation_zero_iff, UInt8.reduceToNat]
  exact ⟨second, rest, rfl, by omega, by omega, congrArg Char.ofNat (by omega), rfl⟩

/-- The second byte has bounds of its own next to shorter sequences and next to surrogates. -/
theorem continuation?_of_three (isValid : n.isValidChar) (low : 0x7FF < n) (high : n ≤ 0xFFFF)
    (isFirst : first.toNat = n / 4096 + 0xE0) (isSecond : second.toNat = n / 64 % 64 + 0x80) :
    ∃ least most, continuation? first = some ⟨2, least, most, n / 4096⟩ ∧
      least.toNat ≤ second.toNat ∧ second.toNat ≤ most.toNat := by
  unfold continuation?
  dsimp only
  rw [if_neg (by omega), if_neg (by omega)]
  by_cases isLow : n / 4096 = 0
  · rw [if_pos (by omega), isLow]
    exact ⟨0xA0, 0xBF, rfl, by simp; omega, by simp; omega⟩
  · rw [if_neg (by omega)]
    by_cases isSurrogate : n / 4096 = 0xD
    · rw [if_pos (by omega), isSurrogate]
      exact ⟨0x80, 0x9F, rfl, by simp; omega, by simp; omega⟩
    · rw [if_neg (by omega), if_pos (by omega), isFirst, Nat.add_sub_cancel]
      exact ⟨0x80, 0xBF, rfl, by simp; omega, by simp; omega⟩

private theorem takeCharacter_of_three (isValid : n.isValidChar) (low : 0x7FF < n)
    (high : n ≤ 0xFFFF)
    (isFirst : first.toNat = n / 4096 + 0xE0) (isSecond : second.toNat = n / 64 % 64 + 0x80)
    (isThird : third.toNat = n % 64 + 0x80) :
    takeCharacter first (second :: third :: rest) = (some (Char.ofNat n), rest) := by
  obtain ⟨least, most, isNext, above, below⟩ :=
    continuation?_of_three isValid low high isFirst isSecond
  unfold takeCharacter
  rw [isNext]
  simp only [takeContinuation_succ_iff, takeContinuation_zero_iff, UInt8.reduceToNat]
  exact ⟨second, _, rfl, above, below, third, rest, rfl, by omega, by omega,
    congrArg Char.ofNat (by omega), rfl⟩

/-- The second byte has bounds of its own next to shorter sequences and behind the last
character. -/
theorem continuation?_of_four (low : 0xFFFF < n) (high : n < 0x110000)
    (isFirst : first.toNat = n / 262144 + 0xF0) (isSecond : second.toNat = n / 4096 % 64 + 0x80) :
    ∃ least most, continuation? first = some ⟨3, least, most, n / 262144⟩ ∧
      least.toNat ≤ second.toNat ∧ second.toNat ≤ most.toNat := by
  unfold continuation?
  dsimp only
  rw [if_neg (by omega), if_neg (by omega), if_neg (by omega), if_neg (by omega),
    if_neg (by omega)]
  by_cases isLow : n / 262144 = 0
  · rw [if_pos (by omega), isLow]
    exact ⟨0x90, 0xBF, rfl, by simp; omega, by simp; omega⟩
  · rw [if_neg (by omega)]
    by_cases isHigh : n / 262144 = 4
    · rw [if_pos (by omega), isHigh]
      exact ⟨0x80, 0x8F, rfl, by simp; omega, by simp; omega⟩
    · rw [if_neg (by omega), if_pos (by omega), isFirst, Nat.add_sub_cancel]
      exact ⟨0x80, 0xBF, rfl, by simp; omega, by simp; omega⟩

private theorem takeCharacter_of_four (low : 0xFFFF < n) (high : n < 0x110000)
    (isFirst : first.toNat = n / 262144 + 0xF0) (isSecond : second.toNat = n / 4096 % 64 + 0x80)
    (isThird : third.toNat = n / 64 % 64 + 0x80) (isFourth : fourth.toNat = n % 64 + 0x80) :
    takeCharacter first (second :: third :: fourth :: rest) = (some (Char.ofNat n), rest) := by
  obtain ⟨least, most, isNext, above, below⟩ := continuation?_of_four low high isFirst isSecond
  unfold takeCharacter
  rw [isNext]
  simp only [takeContinuation_succ_iff, takeContinuation_zero_iff, UInt8.reduceToNat]
  exact ⟨second, _, rfl, above, below, third, _, rfl, by omega, by omega, fourth, rest, rfl,
    by omega, by omega, congrArg Char.ofNat (by omega), rfl⟩

end Sequence

/-- The sequence of a character is taken as that character. -/
theorem takeCharacter_of_encoded {first : UInt8} {rest others : List UInt8} {c : Char}
    (encoded : first :: rest = String.utf8EncodeChar c ++ others) :
    takeCharacter first rest = (some c, others) := by
  have isChar : Char.ofNat c.val.toNat = c := Char.ofNat_toNat c
  have isValid : c.val.toNat.isValidChar := c.valid
  generalize c.val.toNat = n at isChar isValid
  subst isChar
  rw [utf8EncodeChar_ofNat isValid] at encoded
  repeat' split at encoded
  all_goals
    simp only [List.cons_append, List.nil_append, List.cons.injEq] at encoded
    obtain ⟨rfl, rfl⟩ := encoded
  · have isFirst : (UInt8.ofNat n).toNat = n := by
      rw [UInt8.toNat_ofNat', Nat.mod_eq_of_lt (by omega)]
    simp only [takeCharacter, continuation?, isFirst]
    rw [if_pos (by omega)]
    rfl
  · apply takeCharacter_of_two
    all_goals
      try rw [UInt8.toNat_ofNat']
      omega
  · apply takeCharacter_of_three others isValid
    all_goals
      try rw [UInt8.toNat_ofNat']
      omega
  · apply takeCharacter_of_four
    all_goals
      try rw [UInt8.toNat_ofNat']
      omega

/-! ## Texts -/

theorem bytes_append (front back : List Char) : bytes (front ++ back) = bytes front ++ bytes back :=
  List.flatMap_append

theorem decoded_eq_map_iff {content : List UInt8} {text : List Char} :
    decoded content = text.map some ↔ content = bytes text := by
  induction text generalizing content with
  | nil =>
      cases content with
      | nil => simp [decoded, bytes]
      | cons first rest => simp [decoded, bytes]
  | cons c text inductionHypothesis =>
      rw [bytes, List.flatMap_cons, List.map_cons]
      cases content with
      | nil =>
          have notEmpty := String.utf8EncodeChar_ne_nil (c := c)
          simp [decoded, notEmpty]
      | cons first rest =>
          rw [decoded, List.cons.injEq, inductionHypothesis]
          constructor
          · rintro ⟨isCharacter, isRest⟩
            rw [encoded_of_takeCharacter (Prod.ext isCharacter isRest)]
            rfl
          · intro encoded
            rw [takeCharacter_of_encoded encoded]
            exact ⟨rfl, rfl⟩

private theorem mapM_id_eq_some_iff {marked : List (Option Char)} {text : List Char} :
    marked.mapM id = some text ↔ marked = text.map some := by
  induction marked generalizing text with
  | nil => cases text <;> simp
  | cons mark marked inductionHypothesis =>
      cases text <;> simp [Option.bind_eq_some_iff, inductionHypothesis]

/-- **Bytes are read as a text exactly if they are the bytes of that text.** -/
theorem ofBytes?_eq_some_iff {content : List UInt8} {text : String} :
    ofBytes? content = some text ↔ content = stringBytes text := by
  simp only [ofBytes?, Option.map_eq_some_iff, mapM_id_eq_some_iff, decoded_eq_map_iff]
  constructor
  · rintro ⟨characters, isText, rfl⟩
    rw [isText, stringBytes, String.toList_ofList]
  · intro isText
    exact ⟨text.toList, isText, String.ofList_toList⟩

/-- The bytes of a text are read as the text. -/
@[simp]
theorem ofBytes?_bytes (text : List Char) : ofBytes? (bytes text) = some (String.ofList text) :=
  ofBytes?_eq_some_iff.mpr (by rw [stringBytes, String.toList_ofList])

/-- No two strings have the same bytes. -/
theorem stringBytes_inj {text other : String} :
    stringBytes text = stringBytes other ↔ text = other := by
  refine ⟨fun same => ?_, congrArg stringBytes⟩
  have isText := ofBytes?_eq_some_iff.mpr (rfl : stringBytes text = stringBytes text)
  rw [ofBytes?_eq_some_iff.mpr same] at isText
  exact (Option.some.inj isText).symm

/-- Bytes without a zero hold no NUL. -/
theorem nul_not_mem_of_ofBytes? {content : List UInt8} {text : String}
    (isText : ofBytes? content = some text) (noZero : 0 ∉ content) : '\x00' ∉ text.toList := by
  intro isNul
  rw [ofBytes?_eq_some_iff.mp isText] at noZero
  exact noZero (List.mem_flatMap.mpr ⟨'\x00', isNul, by decide⟩)

end WebCompat.Text
