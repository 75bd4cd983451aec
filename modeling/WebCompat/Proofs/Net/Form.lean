import WebCompat.Net.Form
import WebCompat.Proofs.Text.Ascii
import WebCompat.Proofs.Text.Split

/-!
Form fields that are written and read back. A field is written with characters that neither a query
nor its fields are cut at, and a character is written in one of three ways that reading tells apart:
as it is, as a plus sign, or as the escapes of its bytes.

Owns: that escapes denote their bytes; that every text is read back from the field it is written as;
how fields are written; and the fields of a query, to which adding one adds just that one.
-/

namespace WebCompat.Net

open Text (bytes bytes_append hexDigit? splitAt)

/-! ## Escapes -/

private theorem toNat_hexDigit_lt : ∀ n < 16, (hexDigit n).toNat < 0x80 := by
  decide

theorem hexDigit?_hexDigit : ∀ n < 16, hexDigit? (hexDigit n) = some n := by
  decide

/-- The byte of a digit stands for the digit. -/
theorem ofNat_toNat_hexDigit {n : Nat} (small : n < 16) :
    Char.ofNat (UInt8.ofNat (hexDigit n).toNat).toNat = hexDigit n := by
  rw [Text.toNat_ofNat_of_ascii (toNat_hexDigit_lt n small), Char.ofNat_toNat]

private theorem hexByte?_hexDigit (b : UInt8) :
    hexByte? (UInt8.ofNat (hexDigit (b.toNat / 16)).toNat)
      (UInt8.ofNat (hexDigit (b.toNat % 16)).toNat) = some b := by
  have bound := b.toNat_lt
  have high : b.toNat / 16 < 16 := by omega
  have low : b.toNat % 16 < 16 := by omega
  have number : (0 * 16 + b.toNat / 16) * 16 + b.toNat % 16 = b.toNat := by omega
  rw [hexByte?, ofNat_toNat_hexDigit high, ofNat_toNat_hexDigit low]
  simp only [Text.numberInBase?, hexDigit?_hexDigit _ high, hexDigit?_hexDigit _ low, high, low,
    if_true, number, Option.map_some, UInt8.ofNat_toNat]

private theorem percentDecode_cons_of_ne {b : UInt8} (notPercent : b ≠ 0x25) (rest : List UInt8) :
    percentDecode (b :: rest) = b :: percentDecode rest := by
  match rest with
  | [] => simp [percentDecode]
  | [c] => simp [percentDecode]
  | high :: low :: rest => rw [percentDecode, if_neg notPercent]

private theorem bytes_percentByte (b : UInt8) :
    bytes (percentByte b) = [0x25, UInt8.ofNat (hexDigit (b.toNat / 16)).toNat,
      UInt8.ofNat (hexDigit (b.toNat % 16)).toNat] := by
  have bound := b.toNat_lt
  have high := toNat_hexDigit_lt (b.toNat / 16) (by omega)
  have low := toNat_hexDigit_lt (b.toNat % 16) (by omega)
  simp only [bytes, percentByte, List.flatMap_cons, List.flatMap_nil,
    Text.utf8EncodeChar_of_ascii high, Text.utf8EncodeChar_of_ascii low]
  rfl

/-- **An escape denotes its byte.** -/
theorem percentDecode_percentByte (b : UInt8) (rest : List UInt8) :
    percentDecode (bytes (percentByte b) ++ rest) = b :: percentDecode rest := by
  rw [bytes_percentByte]
  show percentDecode (0x25 :: _ :: _ :: rest) = _
  rw [percentDecode, if_pos rfl, hexByte?_hexDigit]

private theorem percentDecode_escapes (content rest : List UInt8) :
    percentDecode (bytes (content.flatMap percentByte) ++ rest) =
      content ++ percentDecode rest := by
  induction content with
  | nil => rfl
  | cons b content inductionHypothesis =>
      rw [List.flatMap_cons, bytes_append, List.append_assoc, percentDecode_percentByte,
        inductionHypothesis, List.cons_append]

namespace Form

/-! ## Fields as they are written -/

/-- The digits of escapes. -/
def isEscapeDigit (c : Char) : Bool :=
  "0123456789ABCDEF".toList.contains c

/-- The ways to write a field. -/
inductive Written : List Char → Prop where
  | nil : Written []
  | plain {c rest} : (c.isAlphanum = true ∨ c ∈ ['*', '-', '.', '_']) → Written rest →
      Written (c :: rest)
  | plus {rest} : Written rest → Written ('+' :: rest)
  | escape {high low rest} : isEscapeDigit high = true → isEscapeDigit low = true →
      Written rest → Written ('%' :: high :: low :: rest)

theorem Written.append {text other : List Char} (written : Written text)
    (isOther : Written other) : Written (text ++ other) := by
  induction written with
  | nil => exact isOther
  | plain isPlain _ inductionHypothesis => exact inductionHypothesis.plain isPlain
  | plus _ inductionHypothesis => exact inductionHypothesis.plus
  | escape high low _ inductionHypothesis => exact inductionHypothesis.escape high low

private theorem isEscapeDigit_hexDigit : ∀ n < 16, isEscapeDigit (hexDigit n) = true := by
  decide

private theorem written_percentByte (b : UInt8) : Written (percentByte b) := by
  have bound := b.toNat_lt
  exact .escape (isEscapeDigit_hexDigit _ (by omega)) (isEscapeDigit_hexDigit _ (by omega)) .nil

private theorem written_flatMap {α : Type} {write : α → List Char}
    (written : ∀ a, Written (write a)) (all : List α) : Written (all.flatMap write) := by
  induction all with
  | nil => exact .nil
  | cons a all inductionHypothesis =>
      rw [List.flatMap_cons]
      exact (written a).append inductionHypothesis

theorem isPlain_iff {c : Char} :
    isPlain c = true ↔ c.isAlphanum = true ∨ c ∈ ['*', '-', '.', '_'] := by
  simp [isPlain, or_assoc]

theorem written_encodeChar (c : Char) : Written (encodeChar c) := by
  unfold encodeChar
  split
  · exact Written.nil.plus
  · split
    · rename_i plain
      exact Written.nil.plain (isPlain_iff.mp plain)
    · exact written_flatMap written_percentByte _

theorem written_encode (text : List Char) : Written (encode text) :=
  written_flatMap written_encodeChar text

/-- The characters that fields are written with. -/
def isFieldChar (c : Char) : Bool :=
  c.isAlphanum || ['*', '-', '.', '_', '+', '%'].contains c

private theorem isFieldChar_of_isEscapeDigit {c : Char} (isDigit : isEscapeDigit c = true) :
    isFieldChar c = true := by
  have each : "0123456789ABCDEF".toList.all isFieldChar = true := by decide
  exact List.all_eq_true.mp each c (List.contains_iff_mem.mp isDigit)

theorem Written.isFieldChar_of_mem {text : List Char} (written : Written text) :
    ∀ c ∈ text, isFieldChar c = true := by
  induction written with
  | nil => exact fun _ none => absurd none List.not_mem_nil
  | plain isPlain _ inductionHypothesis =>
      refine List.forall_mem_cons.mpr ⟨?_, inductionHypothesis⟩
      rcases isPlain with letter | mark
      · simp [isFieldChar, letter]
      · have each : ['*', '-', '.', '_'].all isFieldChar = true := by decide
        exact List.all_eq_true.mp each _ mark
  | plus _ inductionHypothesis =>
      exact List.forall_mem_cons.mpr ⟨rfl, inductionHypothesis⟩
  | escape high low _ inductionHypothesis =>
      simp only [List.forall_mem_cons]
      exact ⟨rfl, isFieldChar_of_isEscapeDigit high, isFieldChar_of_isEscapeDigit low,
        inductionHypothesis⟩

/-- What a query or a field is cut at is in no field as it is written. -/
theorem not_mem_encode {c : Char} (cuts : isFieldChar c = false) (text : List Char) :
    c ∉ encode text := by
  intro isMember
  rw [(written_encode text).isFieldChar_of_mem c isMember] at cuts
  cases cuts

/-! ## Fields as they are read -/

/-- A text with blanks for its plus signs. -/
def spaced (text : List Char) : List Char :=
  text.map fun c => if c = '+' then ' ' else c

private theorem spaced_append (front back : List Char) :
    spaced (front ++ back) = spaced front ++ spaced back :=
  List.map_append

private theorem spaced_of_not_mem {text : List Char} (noPlus : '+' ∉ text) :
    spaced text = text := by
  have kept : ∀ c ∈ text, (if c = '+' then ' ' else c) = c := by
    intro c isMember
    apply if_neg
    rintro rfl
    exact noPlus isMember
  rw [spaced, List.map_congr_left kept, List.map_id']

private theorem plus_not_mem_percentByte (b : UInt8) : '+' ∉ percentByte b := by
  have bound := b.toNat_lt
  have noDigit : ∀ n < 16, hexDigit n ≠ '+' := by decide
  have high := noDigit (b.toNat / 16) (by omega)
  have low := noDigit (b.toNat % 16) (by omega)
  simp [percentByte, high.symm, low.symm]

theorem toNat_lt_of_isPlain {c : Char} (plain : isPlain c = true) : c.toNat < 0x80 := by
  rcases isPlain_iff.mp plain with letter | mark
  · exact Text.toNat_lt_of_isAlphanum letter
  · have each : ['*', '-', '.', '_'].all (fun c => c.toNat < 0x80) = true := by decide
    exact of_decide_eq_true (List.all_eq_true.mp each c mark)

/-- **Each of the three ways to write a character is read as the bytes of the character.** -/
theorem percentDecode_encodeChar (c : Char) (rest : List UInt8) :
    percentDecode (bytes (spaced (encodeChar c)) ++ rest) =
      String.utf8EncodeChar c ++ percentDecode rest := by
  unfold encodeChar
  split
  · rename_i isBlank
    subst isBlank
    exact percentDecode_cons_of_ne (by decide) rest
  · split
    · rename_i plain
      have isAscii := toNat_lt_of_isPlain plain
      have noPlus : '+' ∉ [c] := by
        rw [List.mem_singleton]
        rintro rfl
        cases plain
      have noPercent : UInt8.ofNat c.toNat ≠ 0x25 := by
        intro isPercent
        have sameByte := congrArg UInt8.toNat isPercent
        rw [Text.toNat_ofNat_of_ascii isAscii] at sameByte
        have isChar : c = '%' := Char.toNat_inj.mp sameByte
        rw [isChar] at plain
        cases plain
      rw [spaced_of_not_mem noPlus, bytes, List.flatMap_singleton,
        Text.utf8EncodeChar_of_ascii isAscii]
      exact percentDecode_cons_of_ne noPercent rest
    · have noPlus : '+' ∉ percentChar c := by
        intro isMember
        obtain ⟨b, _, isDigit⟩ := List.mem_flatMap.mp isMember
        exact plus_not_mem_percentByte b isDigit
      rw [spaced_of_not_mem noPlus]
      exact percentDecode_escapes _ rest

/-- Decoding undoes the encoding of a field. -/
theorem percentDecode_encode (text : List Char) :
    percentDecode (bytes (spaced (encode text))) = bytes text := by
  induction text with
  | nil => simp [encode, spaced, bytes, percentDecode]
  | cons c text inductionHypothesis =>
      rw [encode, List.flatMap_cons, spaced_append, bytes_append, percentDecode_encodeChar]
      rw [encode] at inductionHypothesis
      rw [inductionHypothesis]
      rfl

/-- **Every text is read back from the field that it is written as.** -/
theorem decode_encode (text : List Char) : decode (encode text) = String.ofList text := by
  show Text.ofBytesLossy (percentDecode (bytes (spaced (encode text)))) = _
  rw [percentDecode_encode, Text.ofBytesLossy, Text.decoded_eq_map_iff.mpr rfl, List.map_map]
  exact congrArg String.ofList (List.map_id' text)

/-! ## Queries -/

/-- The name and the value in a part of a query, which stand around its first equals sign. -/
def field (part : List Char) : String × String :=
  (decode (part.takeWhile (· != '=')), decode (part.dropWhile (· != '=')).tail)

/-- The fields of a query: of its parts between ampersands those that are not empty. -/
def fields (query : List Char) : List (String × String) :=
  ((splitAt '&' query).filter fun part => part != []).map field

/-- What stands in front of a field that is added to a query. -/
def opening : (query : Option (List Char)) → List Char
  | none | some [] => []
  | some existing => existing ++ ['&']

theorem append_eq (query : Option (List Char)) (name value : List Char) :
    append query name value = opening query ++ (encode name ++ '=' :: encode value) := by
  cases query with
  | none => rfl
  | some existing =>
      cases existing with
      | nil => rfl
      | cons c existing =>
          show c :: existing ++ '&' :: _ = c :: existing ++ ['&'] ++ _
          rw [List.append_assoc, List.singleton_append]

theorem field_encoded (name value : List Char) :
    field (encode name ++ '=' :: encode value) = (String.ofList name, String.ofList value) := by
  have inName : ∀ c ∈ encode name, (c != '=') = true := by
    intro c isMember
    rw [bne_iff_ne]
    rintro rfl
    exact not_mem_encode rfl name isMember
  rw [field, List.takeWhile_append_of_pos inName, List.dropWhile_append_of_pos inName,
    List.takeWhile_cons_of_neg (by decide), List.dropWhile_cons_of_neg (by decide),
    List.append_nil, List.tail_cons, decode_encode, decode_encode]

/-- A field that was encoded is read as the same field. -/
theorem fields_encoded (name value : List Char) :
    fields (encode name ++ '=' :: encode value) = [(String.ofList name, String.ofList value)] := by
  have noCut : '&' ∉ encode name ++ '=' :: encode value := by
    rw [List.mem_append, List.mem_cons]
    rintro (inName | isEquals | inValue)
    · exact not_mem_encode rfl name inName
    · cases isEquals
    · exact not_mem_encode rfl value inValue
  rw [fields, Text.splitAt_of_not_mem noCut, ← field_encoded]
  simp

/-- **Adding a field to a query adds just that field**, behind those that are there. -/
theorem fields_append (query : Option (List Char)) (name value : List Char) :
    fields (append query name value) =
      (query.elim [] fields) ++ [(String.ofList name, String.ofList value)] := by
  rw [append_eq]
  cases query with
  | none => exact fields_encoded name value
  | some existing =>
      cases existing with
      | nil => exact fields_encoded name value
      | cons c existing =>
          show fields (c :: existing ++ ['&'] ++ _) = fields (c :: existing) ++ _
          rw [List.append_assoc, List.singleton_append, fields, Text.splitAt_append_cons,
            List.filter_append, List.map_append]
          exact congrArg (fields (c :: existing) ++ ·) (fields_encoded name value)

end Form

end WebCompat.Net
