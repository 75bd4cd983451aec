import WebCompat.Json.Printer
import WebCompat.Proofs.Json.Whole

/-!
Values that are written without white space. Their text is the text of a tree, which is given for
every value without numbers.

Owns: the pieces in which a text is written, that they denote it, and which trees a value is written
as.
-/

namespace WebCompat.Json

/-! ## Texts in pieces -/

namespace Piece

def letters : List Char :=
  ['"', '\\', 'b', 'f', 'n', 'r', 't']

/-- The letter that a character is written with, if it has one. -/
def letterOf? (c : Char) : Option Char :=
  letters.find? fun letter => namedEscape? letter = some c

private theorem denotes_of_letterOf? {c letter : Char} (isLetter : letterOf? c = some letter) :
    namedEscape? letter = some c := by
  simpa using List.find?_some isLetter

private theorem hexUnit?_of_lt : ∀ n < 0x20,
    hexUnit? '0' '0' (Nat.digitChar (n / 16)) (Nat.digitChar (n % 16)) = some n := by
  decide

private theorem toNat_lt_of_letterOf?_eq_none {c : Char}
    (special : ¬(c ≠ '"' ∧ c ≠ '\\' ∧ isControl c = false)) (noLetter : letterOf? c = none) :
    c.toNat < 0x20 := by
  have notQuote : c ≠ '"' := by
    rintro rfl
    cases noLetter
  have notBackslash : c ≠ '\\' := by
    rintro rfl
    cases noLetter
  have control : isControl c = true := by
    simpa [notQuote, notBackslash] using special
  simpa [isControl] using control

/-- The piece that a character is written as. -/
def ofChar (c : Char) : Piece :=
  if isPlain : c ≠ '"' ∧ c ≠ '\\' ∧ isControl c = false then .plain c isPlain
  else
    match isLetter : letterOf? c with
    | some letter => .named letter c (denotes_of_letterOf? isLetter)
    | none =>
        .numbered '0' '0' (Nat.digitChar (c.toNat / 16)) (Nat.digitChar (c.toNat % 16)) c.toNat
          (hexUnit?_of_lt c.toNat (toNat_lt_of_letterOf?_eq_none isPlain isLetter))

private theorem denoted?_ofChar (c : Char) (pieces : List Piece) :
    denoted? (ofChar c :: pieces) = (denoted? pieces).map (c :: ·) := by
  unfold ofChar
  split
  · rfl
  · rename_i special
    split
    · rfl
    · rename_i noLetter
      have small := toNat_lt_of_letterOf?_eq_none special noLetter
      have notTrailing : Text.isTrailing c.toNat = false := by
        simp only [Text.isTrailing, Bool.and_eq_false_iff, decide_eq_false_iff_not]
        omega
      have notLeading : Text.isLeading c.toNat = false := by
        simp only [Text.isLeading, Bool.and_eq_false_iff, decide_eq_false_iff_not]
        omega
      rw [denoted?_numbered _ notTrailing notLeading, Char.ofNat_toNat]

private theorem escaped_of_plain {c : Char} (isPlain : c ≠ '"' ∧ c ≠ '\\' ∧ isControl c = false) :
    escaped c = [c] := by
  have notSmall : ¬c.toNat < 0x20 := by simpa [isControl] using isPlain.2.2
  have different : ∀ d : Char, d.toNat < 0x20 → c ≠ d := by
    rintro d small rfl
    exact notSmall small
  simp [escaped, isPlain.1, isPlain.2.1, notSmall, different]

private theorem chars_ofChar_of_lt : ∀ n < 0x20,
    (ofChar (Char.ofNat n)).chars = escaped (Char.ofNat n) := by
  decide

/-- A character is written in one piece. -/
theorem chars_ofChar (c : Char) : (ofChar c).chars = escaped c := by
  by_cases isPlain : c ≠ '"' ∧ c ≠ '\\' ∧ isControl c = false
  · rw [ofChar, dif_pos isPlain, escaped_of_plain isPlain]
    rfl
  · by_cases small : c.toNat < 0x20
    · have written := chars_ofChar_of_lt c.toNat small
      rwa [Char.ofNat_toNat] at written
    -- What is neither plain nor small is a quote or a backslash.
    · have mark : c = '"' ∨ c = '\\' := by
        by_contra other
        rw [not_or] at other
        exact isPlain ⟨other.1, other.2, by simpa [isControl] using small⟩
      rcases mark with rfl | rfl
      · decide
      · decide

end Piece

/-- The pieces that a text is written in. -/
def spelled (text : String) : List Piece :=
  text.toList.map Piece.ofChar

private theorem inner_spelled (text : String) :
    inner (spelled text) = text.toList.flatMap escaped := by
  simp [inner, spelled, List.flatMap_map, Piece.chars_ofChar]

private theorem quotation_spelled (text : String) : quotation (spelled text) = literal text := by
  rw [quotation, inner_spelled, literal]

/-- **A text denotes itself as it is written.** -/
theorem string?_spelled (text : String) : string? (spelled text) = some text := by
  have denotes : ∀ chars : List Char, denoted? (chars.map Piece.ofChar) = some chars := by
    intro chars
    induction chars with
    | nil => rfl
    | cons c chars inductionHypothesis =>
        rw [List.map_cons, Piece.denoted?_ofChar, inductionHypothesis]
        rfl
  rw [string?, spelled, denotes, Option.map_some, String.ofList_toList]

/-! ## Trees of values -/

/-- Whether the text of a value is the text of a tree, without white space. -/
def Prints (value : Value) (tree : Tree) : Prop :=
  value.chars = tree.tokens.flatten

theorem prints_null : Prints .null .null :=
  rfl

/-- A text is printed with its escapes. -/
theorem prints_text (text : String) : Prints (.text text) (.text (spelled text)) := by
  rw [Prints, Value.chars, Tree.tokens, List.flatten_singleton, quotation_spelled]

private theorem flatten_append_moreTokens (closing : Char) (entry : List (List Char))
    (entries : List (List (List Char))) :
    (entry ++ moreTokens closing entries).flatten =
      commaSeparated (entry.flatten :: entries.map List.flatten) ++ [closing] := by
  induction entries generalizing entry with
  | nil => simp [moreTokens, commaSeparated]
  | cons next entries inductionHypothesis =>
      have separated : commaSeparated (entry.flatten :: (next :: entries).map List.flatten) =
          entry.flatten ++ ',' :: commaSeparated (next.flatten :: entries.map List.flatten) := rfl
      rw [moreTokens, List.flatten_append, List.flatten_cons, inductionHypothesis, separated,
        List.append_assoc]
      rfl

private theorem flatten_entryTokens (closing : Char) (entries : List (List (List Char))) :
    (entryTokens closing entries).flatten =
      commaSeparated (entries.map List.flatten) ++ [closing] := by
  cases entries with
  | nil => rfl
  | cons entry entries => exact flatten_append_moreTokens closing entry entries

/-- A list is printed item by item. -/
theorem prints_list {values : List Value} {items : List Tree}
    (prints : List.Forall₂ Prints values items) : Prints (.list values) (.list items) := by
  have each : Value.itemsChars values = (Tree.itemTokens items).map List.flatten := by
    induction prints with
    | nil => rfl
    | cons printsItem _ inductionHypothesis =>
        rw [Value.itemsChars, Tree.itemTokens, List.map_cons, printsItem, inductionHypothesis]
  rw [Prints, Value.chars, Tree.tokens, List.flatten_cons, flatten_entryTokens, each]
  rfl

/-- Whether a member is written as a member of a tree. -/
structure PrintsMember (member : String × Value) (written : List Piece × Tree) : Prop where
  key : written.1 = spelled member.1
  value : Prints member.2 written.2

/-- An object is printed member by member. -/
theorem prints_object {members : List (String × Value)} {written : List (List Piece × Tree)}
    (prints : List.Forall₂ PrintsMember members written) :
    Prints (.object members) (.object written) := by
  have each : Value.membersChars members = (Tree.memberTokens written).map List.flatten := by
    induction prints with
    | nil => rfl
    | cons printsMember _ inductionHypothesis =>
        rw [Value.membersChars, Tree.memberTokens, List.map_cons, inductionHypothesis,
          List.flatten_cons, List.flatten_cons, printsMember.key, quotation_spelled,
          printsMember.value]
        rfl
  rw [Prints, Value.chars, Tree.tokens, List.flatten_cons, flatten_entryTokens, each]
  rfl

/-- A value is a document of each tree that it is written as. -/
theorem Prints.isDocument {value : Value} {tree : Tree} (prints : Prints value tree) :
    tree.IsDocument value.compact := by
  rw [Tree.IsDocument, Value.compact, String.toList_ofList, prints, after?_flatten tree.isToken]
  rfl

end WebCompat.Json
