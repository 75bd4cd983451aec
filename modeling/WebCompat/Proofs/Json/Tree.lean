import Mathlib.Data.List.Basic
import WebCompat.Json.Literal
import WebCompat.Json.Numeral
import WebCompat.Json.Value
import WebCompat.Proofs.Json.Reader

/-!
Trees of documents. A tree keeps what is written of each value: the pieces of a quoted text and the
digits of a number, whatever they denote, and the members of an object in their order. It
determines the tokens of its text; between tokens there may be white space.

Owns: the grammar of quoted texts and numbers; trees and their tokens; and what it means that a text
begins with the tokens of a tree, or consists of them.
-/

namespace WebCompat.Json

/-! ## Quoted texts -/

/-- A piece of a quoted text: a character as it is, or an escape. -/
inductive Piece where
  | plain (c : Char) (isPlain : c ≠ '"' ∧ c ≠ '\\' ∧ isControl c = false)
  | named (letter denoted : Char) (denotes : namedEscape? letter = some denoted)
  | numbered (a b c d : Char) (unit : Nat) (denotes : hexUnit? a b c d = some unit)

def Piece.chars : Piece → List Char
  | .plain c _ => [c]
  | .named letter _ _ => ['\\', letter]
  | .numbered a b c d _ _ => ['\\', 'u', a, b, c, d]

def inner (pieces : List Piece) : List Char :=
  pieces.flatMap Piece.chars

/-- The text that pieces denote. Units of sixteen bits have to denote characters, alone or in
pairs. -/
def denoted? : List Piece → Option (List Char)
  | [] => some []
  | .plain c _ :: pieces => (denoted? pieces).map (c :: ·)
  | .named _ denoted _ :: pieces => (denoted? pieces).map (denoted :: ·)
  | .numbered _ _ _ _ unit _ :: pieces =>
      if Text.isTrailing unit then none
      else if Text.isLeading unit then
        match pieces with
        | .numbered _ _ _ _ trailing _ :: others =>
            if Text.isTrailing trailing then
              (denoted? others).map (Text.pairedChar unit trailing :: ·)
            else none
        | _ => none
      else (denoted? pieces).map (Char.ofNat unit :: ·)

/-- The string that pieces denote. -/
def string? (pieces : List Piece) : Option String :=
  (denoted? pieces).map String.ofList

/-! ## Numbers -/

/-- One or more digits. -/
structure IsDigits (digits : List Char) : Prop where
  notEmpty : digits ≠ []
  digit : ∀ c ∈ digits, c.isDigit = true

/-- Digits without a needless zero in front. -/
structure IsWhole (digits : List Char) : Prop extends IsDigits digits where
  zeroAlone : digits.head? = some '0' → digits = ['0']

/-- The ways to write a fraction. -/
inductive FractionWritten : List Char → List Char → Prop where
  | absent : FractionWritten [] []
  | present {digits} : IsDigits digits → FractionWritten digits ('.' :: digits)

/-- The letter of an exponent. -/
def isPowerLetter (c : Char) : Bool :=
  c = 'e' || c = 'E'

/-- The ways to write an exponent. -/
inductive PowerWritten : Option (Bool × List Char) → List Char → Prop where
  | absent : PowerWritten none []
  | unsigned {letter digits} : isPowerLetter letter = true → IsDigits digits →
      PowerWritten (some (false, digits)) (letter :: digits)
  | plus {letter digits} : isPowerLetter letter = true → IsDigits digits →
      PowerWritten (some (false, digits)) (letter :: '+' :: digits)
  | minus {letter digits} : isPowerLetter letter = true → IsDigits digits →
      PowerWritten (some (true, digits)) (letter :: '-' :: digits)

/-- The ways to write a number after its sign. -/
inductive Numeral.Written : Numeral → List Char → Prop where
  | intro {whole fraction power point exponent} : IsWhole whole →
      FractionWritten fraction point → PowerWritten exponent power →
      Numeral.Written ⟨whole, fraction, exponent⟩ (whole ++ (point ++ power))

/-- A number after its sign, as it is written. -/
structure Figure where
  numeral : Numeral
  chars : List Char
  written : numeral.Written chars

/-! ## Trees -/

/-- A document as it is written, but for the white space. -/
inductive Tree where
  | null
  | bool (value : Bool)
  | number (isNegative : Bool) (figure : Figure)
  | text (pieces : List Piece)
  | list (items : List Tree)
  | object (members : List (List Piece × Tree))

/-- The characters of a quoted text. -/
def quotation (pieces : List Piece) : List Char :=
  '"' :: inner pieces ++ ['"']

/-- The tokens behind an entry: each further entry has a comma in front, and the closing mark is
last. -/
def moreTokens (closing : Char) : List (List (List Char)) → List (List Char)
  | [] => [[closing]]
  | entry :: entries => [','] :: (entry ++ moreTokens closing entries)

/-- The tokens of entries behind an opening mark, up to the closing one. -/
def entryTokens (closing : Char) : List (List (List Char)) → List (List Char)
  | [] => [[closing]]
  | entry :: entries => entry ++ moreTokens closing entries

namespace Tree

mutual

def tokens : Tree → List (List Char)
  | .null => [['n', 'u', 'l', 'l']]
  | .bool true => [['t', 'r', 'u', 'e']]
  | .bool false => [['f', 'a', 'l', 's', 'e']]
  | .number isNegative figure => [if isNegative then '-' :: figure.chars else figure.chars]
  | .text pieces => [quotation pieces]
  | .list items => ['['] :: entryTokens ']' (itemTokens items)
  | .object members => ['\x7b'] :: entryTokens '\x7d' (memberTokens members)

def itemTokens : List Tree → List (List (List Char))
  | [] => []
  | item :: items => item.tokens :: itemTokens items

def memberTokens : List (List Piece × Tree) → List (List (List Char))
  | [] => []
  | (key, value) :: members =>
      (quotation key :: [':'] :: value.tokens) :: memberTokens members

end

theorem itemTokens_eq_map (items : List Tree) : itemTokens items = items.map tokens := by
  induction items with
  | nil => rfl
  | cons item items inductionHypothesis => rw [itemTokens, inductionHypothesis, List.map_cons]

def ofMember (member : List Piece × Tree) : List (List Char) :=
  quotation member.1 :: [':'] :: member.2.tokens

theorem memberTokens_eq_map (members : List (List Piece × Tree)) :
    memberTokens members = members.map ofMember := by
  induction members with
  | nil => rfl
  | cons member members inductionHypothesis =>
      rw [memberTokens, inductionHypothesis, List.map_cons]
      rfl

end Tree

/-! ## Texts of tokens -/

/-- What a text leaves behind the given tokens, which may have white space in front of each. -/
def after? : List (List Char) → List Char → Option (List Char)
  | [], text => some text
  | token :: tokens, text => ((skipSpace text).dropPrefix? token).bind (after? tokens)

/-- Whether a text consists of the tokens of a tree, with white space where one likes. -/
def Tree.IsDocument (tree : Tree) (text : String) : Prop :=
  (after? tree.tokens text.toList).map skipSpace = some []

instance (tree : Tree) (text : String) : Decidable (tree.IsDocument text) := by
  unfold Tree.IsDocument
  infer_instance

/-- A document begins with the tokens of its tree, and has only white space behind them. -/
theorem Tree.isDocument_iff {tree : Tree} {text : String} :
    tree.IsDocument text ↔
      ∃ rest, after? tree.tokens text.toList = some rest ∧ skipSpace rest = [] := by
  unfold Tree.IsDocument
  exact Option.map_eq_some_iff

theorem after?_cons_eq_some_iff {token : List Char} {tokens : List (List Char)}
    {text rest : List Char} :
    after? (token :: tokens) text = some rest ↔
      ∃ behind, skipSpace text = token ++ behind ∧ after? tokens behind = some rest := by
  rw [after?, Option.bind_eq_some_iff]
  simp only [List.dropPrefix?_eq_some_iff, beq_iff_eq]
  constructor
  · rintro ⟨behind, ⟨other, split, rfl⟩, later⟩
    exact ⟨behind, split, later⟩
  · rintro ⟨behind, split, later⟩
    exact ⟨behind, ⟨token, split, rfl⟩, later⟩

theorem after?_append (first second : List (List Char)) (text : List Char) :
    after? (first ++ second) text = (after? first text).bind (after? second) := by
  induction first generalizing text with
  | nil => rfl
  | cons token tokens inductionHypothesis =>
      rw [List.cons_append, after?, after?, Option.bind_assoc, funext inductionHypothesis]

/-- White space in front of a text does not matter to the tokens that it begins with. -/
theorem after?_skipSpace {tokens : List (List Char)} (notEmpty : tokens ≠ []) (text : List Char) :
    after? tokens (skipSpace text) = after? tokens text := by
  cases tokens with
  | nil => exact absurd rfl notEmpty
  | cons token tokens => rw [after?, after?, skipSpace_skipSpace]

/-- Whatever stands behind tokens is left behind them. -/
theorem after?_append_text {tokens : List (List Char)} (notEmpty : ∀ token ∈ tokens, token ≠ [])
    {text rest : List Char} (begins : after? tokens text = some rest) (more : List Char) :
    after? tokens (text ++ more) = some (rest ++ more) := by
  induction tokens generalizing text with
  | nil =>
      cases begins
      rfl
  | cons token tokens inductionHypothesis =>
      obtain ⟨behind, split, later⟩ := after?_cons_eq_some_iff.mp begins
      refine after?_cons_eq_some_iff.mpr ⟨behind ++ more, ?_, ?_⟩
      · rw [skipSpace_append more, split, List.append_assoc]
        rw [split]
        exact List.append_ne_nil_of_left_ne_nil (notEmpty token List.mem_cons_self) behind
      · apply inductionHypothesis _ later
        exact fun other member => notEmpty other (List.mem_cons_of_mem _ member)

/-- A text has at least as many characters as the tokens that it begins with are. -/
theorem length_le_of_after? {tokens : List (List Char)} (notEmpty : ∀ token ∈ tokens, token ≠ [])
    {text rest : List Char} (begins : after? tokens text = some rest) :
    tokens.length + rest.length ≤ text.length := by
  induction tokens generalizing text with
  | nil =>
      cases begins
      simp
  | cons token tokens inductionHypothesis =>
      obtain ⟨behind, split, later⟩ := after?_cons_eq_some_iff.mp begins
      have shorter := inductionHypothesis
        (fun other member => notEmpty other (List.mem_cons_of_mem _ member)) later
      have positive := List.length_pos_iff.mpr (notEmpty token List.mem_cons_self)
      have skipped := skipSpace_length_le text
      rw [split, List.length_append] at skipped
      simp only [List.length_cons]
      omega

end WebCompat.Json
