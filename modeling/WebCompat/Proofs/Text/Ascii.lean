import WebCompat.Proofs.Text.Utf8

/-!
ASCII characters. In UTF-8 such a character is a single byte below 128, and no other character has
a byte below 128, so that what is done to ASCII bytes is done to ASCII characters.

Owns: the bounds of ASCII letters and digits, and their lower case; and the bytes of ASCII text.
-/

namespace WebCompat.Text

/-! ## Letters and digits -/

theorem toNat_of_isAlphanum {c : Char} (isAlphanum : c.isAlphanum = true) :
    0x30 ≤ c.toNat ∧ c.toNat ≤ 0x7A := by
  have classes : (c.isUpper || c.isLower || c.isDigit) = true := isAlphanum
  simp only [Bool.or_eq_true] at classes
  rcases classes with (upper | lower) | digit
  · have bounds : 65 ≤ c.toNat ∧ c.toNat ≤ 90 := of_decide_eq_true upper
    omega
  · obtain ⟨low, high⟩ := Bool.and_eq_true_iff.mp lower
    have atLeast : 97 ≤ c.toNat := of_decide_eq_true low
    have atMost : c.toNat ≤ 122 := of_decide_eq_true high
    omega
  · obtain ⟨low, high⟩ := Bool.and_eq_true_iff.mp digit
    have atLeast : 48 ≤ c.toNat := of_decide_eq_true low
    have atMost : c.toNat ≤ 57 := of_decide_eq_true high
    omega

theorem toNat_lt_of_isAlphanum {c : Char} (isAlphanum : c.isAlphanum = true) : c.toNat < 0x80 := by
  have bounds := toNat_of_isAlphanum isAlphanum
  omega

theorem toNat_toLower (c : Char) : c.toLower.toNat =
    if 0x41 ≤ c.toNat ∧ c.toNat ≤ 0x5A then c.toNat + 0x20 else c.toNat := by
  have isCapital : (c.val ≥ 'A'.val ∧ c.val ≤ 'Z'.val) ↔ 0x41 ≤ c.toNat ∧ c.toNat ≤ 0x5A := by
    rw [ge_iff_le, UInt32.le_iff_toNat_le, UInt32.le_iff_toNat_le]
    rfl
  unfold Char.toLower
  split
  · rename_i capital
    have bounds := isCapital.mp capital
    rw [if_pos bounds]
    show (c.val + ('a'.val - 'A'.val)).toNat = _
    rw [UInt32.toNat_add]
    show (c.toNat + 0x20) % 2 ^ 32 = _
    omega
  · rename_i other
    rw [if_neg fun bounds => other (isCapital.mpr bounds)]

theorem toLower_of_not_ascii {c : Char} (beyond : ¬ c.toNat < 0x80) : c.toLower = c := by
  rw [← Char.toNat_inj, toNat_toLower, if_neg (by omega)]

/-! ## Bytes -/

theorem utf8EncodeChar_of_ascii {c : Char} (isAscii : c.toNat < 0x80) :
    String.utf8EncodeChar c = [UInt8.ofNat c.toNat] :=
  if_pos (Nat.le_of_lt_succ isAscii)

theorem toNat_ofNat_of_ascii {n : Nat} (isAscii : n < 0x80) : (UInt8.ofNat n).toNat = n := by
  rw [UInt8.toNat_ofNat', Nat.mod_eq_of_lt (by omega)]

theorem toNat_ge_of_mem_utf8EncodeChar {c : Char} (beyond : ¬ c.toNat < 0x80) {b : UInt8}
    (isByte : b ∈ String.utf8EncodeChar c) : 0x80 ≤ b.toNat := by
  have notSingle : ¬ c.val.toNat ≤ 0x7F := fun single => beyond (Nat.lt_succ_of_le single)
  unfold String.utf8EncodeChar at isByte
  dsimp only at isByte
  rw [if_neg notSingle] at isByte
  repeat' split at isByte
  all_goals
    simp only [List.mem_cons, List.not_mem_nil, or_false] at isByte
    rcases isByte with rfl | rfl | rfl | rfl
  all_goals
    rw [UInt8.toNat_ofNat']
    omega

/-- Bytes below 128 are a text. -/
theorem exists_of_ascii_bytes {content : List UInt8} (areAscii : ∀ b ∈ content, b.toNat < 0x80) :
    ∃ text : String, content = stringBytes text := by
  refine ⟨String.ofList (content.map fun b => Char.ofNat b.toNat), ?_⟩
  rw [stringBytes, String.toList_ofList, bytes, List.flatMap_map]
  have single : ∀ b ∈ content, String.utf8EncodeChar (Char.ofNat b.toNat) = [b] := by
    intro b isByte
    have isAscii := areAscii b isByte
    rw [utf8EncodeChar_ofNat (.inl (by omega)), if_pos (by omega), UInt8.ofNat_toNat]
  rw [List.flatMap_def, List.map_congr_left single, ← List.flatMap_def, List.flatMap_singleton']

end WebCompat.Text
