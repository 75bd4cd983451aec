import WebCompat.Proofs.Json.Tree

/-!
Quoted texts: what is read or passed over is what the grammar allows, up to the closing quote, and
the text that is read is the one that the pieces denote.

Owns: the outcome of the readers of escapes and quoted texts; that what they take is made of pieces;
and that pieces are taken, where they denote a text for one reader and always for the other.
-/

namespace WebCompat.Json

open WebCompat.Text (Taken)
open Reader (take?)

/-! ## Outcomes -/

theorem take?_hexUnit {text rest : List Char} {unit : Nat} :
    take? hexUnit text = some (unit, rest) ↔
      ∃ a b c d, text = a :: b :: c :: d :: rest ∧ hexUnit? a b c d = some unit := by
  unfold take? hexUnit
  constructor
  · intro taken
    split at taken
    · cases taken
    · rename_i found isFound
      split at isFound
      · split at isFound
        · rename_i denotes
          cases isFound
          cases taken
          exact ⟨_, _, _, _, rfl, denotes⟩
        · cases isFound
      · cases isFound
  · rintro ⟨a, b, c, d, rfl, denotes⟩
    simp [denotes]

theorem take?_trailingUnit {text rest : List Char} {unit : Nat} :
    take? trailingUnit text = some (unit, rest) ↔
      ∃ behind, text = '\\' :: 'u' :: behind ∧ take? hexUnit behind = some (unit, rest) ∧
        Text.isTrailing unit = true := by
  unfold take? trailingUnit
  constructor
  · intro taken
    split at taken
    · cases taken
    · rename_i found isFound
      split at isFound
      · cases isFound
      · cases isFound
      · split at isFound
        · cases isFound
        · rename_i isUnit
          split at isFound
          · rename_i trailing
            cases isFound
            cases taken
            exact ⟨_, rfl, by rw [isUnit]; rfl, trailing⟩
          · cases isFound
      · cases isFound
      · cases isFound
  · rintro ⟨behind, rfl, taken, trailing⟩
    cases isUnit : hexUnit behind with
    | error fault => simp [isUnit] at taken
    | ok found =>
        simp only [isUnit, Option.some.injEq, Prod.mk.injEq] at taken
        obtain ⟨rfl, rfl⟩ := taken
        simp [isUnit, trailing, Taken.widen]

theorem take?_numberedEscape (text : List Char) :
    take? numberedEscape text =
      (take? hexUnit text).bind fun unit =>
        if Text.isTrailing unit.1 then none
        else if Text.isLeading unit.1 then
          (take? trailingUnit unit.2).map fun trailing =>
            (Text.pairedChar unit.1 trailing.1, trailing.2)
        else some (Char.ofNat unit.1, unit.2) := by
  unfold take? numberedEscape
  cases hexUnit text with
  | error fault => rfl
  | ok unit =>
      dsimp only [Option.bind_some]
      by_cases trailing : Text.isTrailing unit.value
      · rw [if_pos trailing, if_pos trailing]
      · by_cases leading : Text.isLeading unit.value
        · rw [if_neg trailing, if_neg trailing, if_pos leading, if_pos leading]
          cases trailingUnit unit.rest <;> simp [Taken.map, Taken.widen]
        · rw [if_neg trailing, if_neg trailing, if_neg leading, if_neg leading]
          rfl

theorem take?_escape (c : Char) (rest : List Char) :
    take? escape (c :: rest) =
      if c = 'u' then take? numberedEscape rest
      else (namedEscape? c).map fun named => (named, rest) := by
  unfold take? escape
  by_cases isNumbered : c = 'u'
  · simp only [isNumbered, if_true]
    cases numberedEscape rest <;> rfl
  · simp only [isNumbered, if_false]
    cases namedEscape? c <;> rfl

theorem take?_escapeForm (c : Char) (rest : List Char) :
    take? escapeForm (c :: rest) =
      if c = 'u' then (take? hexUnit rest).map fun unit => ((), unit.2)
      else (namedEscape? c).map fun _ => ((), rest) := by
  unfold take? escapeForm
  by_cases isNumbered : c = 'u'
  · simp only [isNumbered, if_true]
    cases hexUnit rest <;> rfl
  · simp only [isNumbered, if_false]
    cases namedEscape? c <;> rfl

theorem take?_quotedChars (c : Char) (rest : List Char) :
    take? quotedChars (c :: rest) =
      if c = '"' then some ([], rest)
      else if c = '\\' then
        (take? escape rest).bind fun first =>
          (take? quotedChars first.2).map fun more => (first.1 :: more.1, more.2)
      else if isControl c then none
      else (take? quotedChars rest).map fun more => (c :: more.1, more.2) := by
  unfold take?
  rw [quotedChars]
  by_cases ends : c = '"'
  · rw [if_pos ends, if_pos ends]
  · by_cases isEscape : c = '\\'
    · rw [if_neg ends, if_neg ends, if_pos isEscape, if_pos isEscape]
      cases escape rest with
      | error fault => rfl
      | ok first =>
          dsimp only [Option.bind_some]
          cases quotedChars first.rest <;> rfl
    · by_cases control : isControl c
      · rw [if_neg ends, if_neg ends, if_neg isEscape, if_neg isEscape, if_pos control,
          if_pos control]
      · rw [if_neg ends, if_neg ends, if_neg isEscape, if_neg isEscape, if_neg control,
          if_neg control]
        cases quotedChars rest <;> rfl

theorem take?_quotedForm (c : Char) (rest : List Char) :
    take? quotedForm (c :: rest) =
      if c = '"' then some ((), rest)
      else if c = '\\' then (take? escapeForm rest).bind fun first => take? quotedForm first.2
      else if isControl c then none
      else take? quotedForm rest := by
  unfold take?
  rw [quotedForm]
  by_cases ends : c = '"'
  · rw [if_pos ends, if_pos ends]
  · by_cases isEscape : c = '\\'
    · rw [if_neg ends, if_neg ends, if_pos isEscape, if_pos isEscape]
      cases escapeForm rest with
      | error fault => rfl
      | ok first =>
          dsimp only [Option.bind_some]
          cases quotedForm first.rest <;> rfl
    · by_cases control : isControl c
      · rw [if_neg ends, if_neg ends, if_neg isEscape, if_neg isEscape, if_pos control,
          if_pos control]
      · rw [if_neg ends, if_neg ends, if_neg isEscape, if_neg isEscape, if_neg control,
          if_neg control]
        cases quotedForm rest <;> rfl

/-! ## What is taken is made of pieces -/

private theorem ne_u_of_namedEscape? {letter denoted : Char}
    (denotes : namedEscape? letter = some denoted) : letter ≠ 'u' := by
  rintro rfl
  cases denotes

private theorem not_isTrailing_of_isLeading {unit : Nat} (leading : Text.isLeading unit = true) :
    Text.isTrailing unit = false := by
  simp only [Text.isLeading, Text.isTrailing, Bool.and_eq_true, decide_eq_true_eq,
    Bool.and_eq_false_iff, decide_eq_false_iff_not] at leading ⊢
  omega

section Units

variable {a b c d : Char} {unit : Nat} (denotes : hexUnit? a b c d = some unit)

theorem denoted?_numbered (notTrailing : Text.isTrailing unit = false)
    (notLeading : Text.isLeading unit = false) (pieces : List Piece) :
    denoted? (.numbered a b c d unit denotes :: pieces) =
      (denoted? pieces).map (Char.ofNat unit :: ·) := by
  rw [denoted?.eq_def]
  simp only [notTrailing, notLeading, Bool.false_eq_true, if_false]

private theorem denoted?_pair {x y z w : Char} {trailing : Nat}
    (follows : hexUnit? x y z w = some trailing)
    (isLeading : Text.isLeading unit = true) (isTrailing : Text.isTrailing trailing = true)
    (pieces : List Piece) :
    denoted? (.numbered a b c d unit denotes :: .numbered x y z w trailing follows :: pieces) =
      (denoted? pieces).map (Text.pairedChar unit trailing :: ·) := by
  rw [denoted?.eq_def]
  simp only [not_isTrailing_of_isLeading isLeading, isLeading, isTrailing, Bool.false_eq_true,
    if_false, if_true]

end Units

/-- An escape is one piece, or two where two units make a character. -/
theorem exists_of_escape {text rest : List Char} {c : Char}
    (taken : take? escape text = some (c, rest)) :
    ∃ pieces, '\\' :: text = inner pieces ++ rest ∧
      ∀ others, denoted? (pieces ++ others) = (denoted? others).map (c :: ·) := by
  cases text with
  | nil => cases taken
  | cons letter behind =>
      rw [take?_escape] at taken
      by_cases isNumbered : letter = 'u'
      · rw [if_pos isNumbered, take?_numberedEscape] at taken
        obtain ⟨⟨unit, afterUnit⟩, isUnit, settled⟩ := Option.bind_eq_some_iff.mp taken
        obtain ⟨x, y, z, w, rfl, denotes⟩ := take?_hexUnit.mp isUnit
        by_cases isTrailing : Text.isTrailing unit
        · simp [isTrailing] at settled
        · by_cases isLeading : Text.isLeading unit
          · simp only [isTrailing, isLeading, if_true, Bool.false_eq_true, if_false,
              Option.map_eq_some_iff, Prod.exists, Prod.mk.injEq] at settled
            obtain ⟨second, left, isSecond, rfl, rfl⟩ := settled
            obtain ⟨later, rfl, isPair, follows⟩ := take?_trailingUnit.mp isSecond
            obtain ⟨x', y', z', w', rfl, denotes'⟩ := take?_hexUnit.mp isPair
            exact ⟨[.numbered x y z w unit denotes, .numbered x' y' z' w' second denotes'],
              by simp [inner, Piece.chars, isNumbered],
              denoted?_pair denotes denotes' isLeading follows⟩
          · simp only [isTrailing, isLeading, Bool.false_eq_true, if_false, Option.some.injEq,
              Prod.mk.injEq] at settled
            obtain ⟨rfl, rfl⟩ := settled
            exact ⟨[.numbered x y z w unit denotes], by simp [inner, Piece.chars, isNumbered],
              denoted?_numbered denotes (by simpa using isTrailing) (by simpa using isLeading)⟩
      · rw [if_neg isNumbered] at taken
        obtain ⟨named, denotes, same⟩ := Option.map_eq_some_iff.mp taken
        cases same
        exact ⟨[.named letter c denotes], rfl, fun others => rfl⟩

/-- Characters that were taken up to a quote are denoted by pieces. -/
theorem exists_of_quotedChars {text rest said : List Char}
    (taken : take? quotedChars text = some (said, rest)) :
    ∃ pieces, text = inner pieces ++ '"' :: rest ∧ denoted? pieces = some said := by
  induction length : text.length using Nat.strongRecOn generalizing text said with
  | ind _ inductionHypothesis =>
      cases text with
      | nil =>
          unfold take? at taken
          rw [quotedChars] at taken
          cases taken
      | cons c behind =>
          rw [take?_quotedChars] at taken
          by_cases ends : c = '"'
          · simp only [ends, if_true, Option.some.injEq, Prod.mk.injEq] at taken
            obtain ⟨rfl, rfl⟩ := taken
            exact ⟨[], by rw [ends]; rfl, rfl⟩
          · by_cases isEscape : c = '\\'
            · rw [if_neg ends, if_pos isEscape] at taken
              obtain ⟨⟨first, left⟩, isFirst, later⟩ := Option.bind_eq_some_iff.mp taken
              obtain ⟨⟨more, _⟩, isMore, same⟩ := Option.map_eq_some_iff.mp later
              cases same
              have shorter := Reader.length_lt_of_take? isFirst
              rw [List.length_cons] at length
              obtain ⟨pieces, split, denotes⟩ :=
                inductionHypothesis left.length (by omega) isMore rfl
              dsimp only at split
              obtain ⟨opening, splitOpening, denotesOpening⟩ := exists_of_escape isFirst
              refine ⟨opening ++ pieces, ?_, ?_⟩
              · rw [isEscape, splitOpening, split, inner, inner, inner, List.flatMap_append,
                  List.append_assoc]
              · rw [denotesOpening, denotes]
                rfl
            · rw [if_neg ends, if_neg isEscape] at taken
              by_cases control : isControl c
              · rw [if_pos control] at taken
                cases taken
              · rw [if_neg control] at taken
                obtain ⟨⟨more, _⟩, isMore, same⟩ := Option.map_eq_some_iff.mp taken
                cases same
                rw [List.length_cons] at length
                obtain ⟨pieces, split, denotes⟩ :=
                  inductionHypothesis behind.length (by omega) isMore rfl
                refine ⟨.plain c ⟨ends, isEscape, Bool.eq_false_iff.mpr control⟩ :: pieces, ?_, ?_⟩
                · rw [split]
                  rfl
                · rw [denoted?, denotes]
                  rfl

private theorem exists_of_escapeForm {text rest : List Char}
    (taken : take? escapeForm text = some ((), rest)) :
    ∃ piece : Piece, '\\' :: text = piece.chars ++ rest := by
  cases text with
  | nil => cases taken
  | cons letter behind =>
      rw [take?_escapeForm] at taken
      by_cases isNumbered : letter = 'u'
      · rw [if_pos isNumbered] at taken
        obtain ⟨⟨unit, _⟩, isUnit, same⟩ := Option.map_eq_some_iff.mp taken
        cases same
        obtain ⟨x, y, z, w, rfl, denotes⟩ := take?_hexUnit.mp isUnit
        exact ⟨.numbered x y z w unit denotes, by rw [isNumbered]; rfl⟩
      · rw [if_neg isNumbered] at taken
        obtain ⟨named, denotes, same⟩ := Option.map_eq_some_iff.mp taken
        cases same
        exact ⟨.named letter named denotes, rfl⟩

theorem exists_of_quotedForm {text rest : List Char}
    (taken : take? quotedForm text = some ((), rest)) :
    ∃ pieces, text = inner pieces ++ '"' :: rest := by
  induction length : text.length using Nat.strongRecOn generalizing text with
  | ind _ inductionHypothesis =>
      cases text with
      | nil =>
          unfold take? at taken
          rw [quotedForm] at taken
          cases taken
      | cons c behind =>
          rw [take?_quotedForm] at taken
          by_cases ends : c = '"'
          · simp only [ends, if_true, Option.some.injEq, Prod.mk.injEq, true_and] at taken
            exact ⟨[], by rw [ends, taken]; rfl⟩
          · by_cases isEscape : c = '\\'
            · rw [if_neg ends, if_pos isEscape] at taken
              obtain ⟨⟨_, left⟩, isFirst, isMore⟩ := Option.bind_eq_some_iff.mp taken
              have shorter := Reader.length_lt_of_take? isFirst
              rw [List.length_cons] at length
              obtain ⟨pieces, split⟩ := inductionHypothesis left.length (by omega) isMore rfl
              dsimp only at split
              obtain ⟨piece, splitPiece⟩ := exists_of_escapeForm isFirst
              refine ⟨piece :: pieces, ?_⟩
              rw [isEscape, splitPiece, split, inner, inner, List.flatMap_cons, List.append_assoc]
            · rw [if_neg ends, if_neg isEscape] at taken
              by_cases control : isControl c
              · rw [if_pos control] at taken
                cases taken
              · rw [if_neg control] at taken
                rw [List.length_cons] at length
                obtain ⟨pieces, split⟩ := inductionHypothesis behind.length (by omega) taken rfl
                refine ⟨.plain c ⟨ends, isEscape, Bool.eq_false_iff.mpr control⟩ :: pieces, ?_⟩
                rw [split]
                rfl

/-! ## Pieces are taken -/

section Escapes

variable {a b c d : Char} {unit : Nat} (denotes : hexUnit? a b c d = some unit)

include denotes

theorem take?_hexUnit_of_denotes (rest : List Char) :
    take? hexUnit (a :: b :: c :: d :: rest) = some (unit, rest) :=
  take?_hexUnit.mpr ⟨a, b, c, d, rfl, denotes⟩

theorem take?_escape_numbered (notTrailing : Text.isTrailing unit = false)
    (notLeading : Text.isLeading unit = false) (rest : List Char) :
    take? escape ('u' :: a :: b :: c :: d :: rest) = some (Char.ofNat unit, rest) := by
  rw [take?_escape, if_pos rfl, take?_numberedEscape, take?_hexUnit_of_denotes denotes]
  simp [notTrailing, notLeading]

theorem take?_escape_pair {x y z w : Char} {trailing : Nat}
    (follows : hexUnit? x y z w = some trailing) (isLeading : Text.isLeading unit = true)
    (isTrailing : Text.isTrailing trailing = true) (rest : List Char) :
    take? escape ('u' :: a :: b :: c :: d :: '\\' :: 'u' :: x :: y :: z :: w :: rest) =
      some (Text.pairedChar unit trailing, rest) := by
  have second : take? trailingUnit ('\\' :: 'u' :: x :: y :: z :: w :: rest) =
      some (trailing, rest) :=
    take?_trailingUnit.mpr ⟨_, rfl, take?_hexUnit_of_denotes follows rest, isTrailing⟩
  rw [take?_escape, if_pos rfl, take?_numberedEscape, take?_hexUnit_of_denotes denotes]
  simp [not_isTrailing_of_isLeading isLeading, isLeading, second]

end Escapes

theorem take?_quotedChars_escape {behind left rest more : List Char} {c : Char}
    (isFirst : take? escape behind = some (c, left))
    (isMore : take? quotedChars left = some (more, rest)) :
    take? quotedChars ('\\' :: behind) = some (c :: more, rest) := by
  rw [take?_quotedChars, if_neg (by decide), if_pos rfl, isFirst, Option.bind_some, isMore]
  rfl

/-- Pieces that denote characters are taken for them up to the closing quote. -/
theorem take?_quotedChars_inner {pieces : List Piece} {said : List Char}
    (denotes : denoted? pieces = some said) (rest : List Char) :
    take? quotedChars (inner pieces ++ '"' :: rest) = some (said, rest) := by
  induction pieces using denoted?.induct generalizing said with
  | case1 =>
      cases denotes
      rw [inner, List.flatMap_nil, List.nil_append, take?_quotedChars, if_pos rfl]
  | case2 c isPlain pieces inductionHypothesis =>
      obtain ⟨more, isMore, rfl⟩ := Option.map_eq_some_iff.mp denotes
      show take? quotedChars (c :: (inner pieces ++ '"' :: rest)) = _
      rw [take?_quotedChars, if_neg isPlain.1, if_neg isPlain.2.1, isPlain.2.2,
        inductionHypothesis isMore]
      rfl
  | case3 letter named isNamed pieces inductionHypothesis =>
      obtain ⟨more, isMore, rfl⟩ := Option.map_eq_some_iff.mp denotes
      refine take?_quotedChars_escape ?_ (inductionHypothesis isMore)
      show take? escape (letter :: (inner pieces ++ '"' :: rest)) = _
      rw [take?_escape, if_neg (ne_u_of_namedEscape? isNamed), isNamed]
      rfl
  | case4 a b c d unit isUnit pieces isTrailing =>
      rw [denoted?.eq_def] at denotes
      simp [isTrailing] at denotes
  | case5 a b c d unit isUnit notTrailing isLeading x y z w trailing follows others isTrailing
      inductionHypothesis =>
      rw [denoted?_pair isUnit follows isLeading isTrailing] at denotes
      obtain ⟨more, isMore, rfl⟩ := Option.map_eq_some_iff.mp denotes
      exact take?_quotedChars_escape (take?_escape_pair isUnit follows isLeading isTrailing _)
        (inductionHypothesis isMore)
  | case6 a b c d unit isUnit notTrailing isLeading x y z w trailing follows others broken =>
      rw [denoted?.eq_def] at denotes
      simp [notTrailing, isLeading, broken] at denotes
  | case7 a b c d unit isUnit pieces notTrailing isLeading alone =>
      rw [denoted?.eq_def] at denotes
      simp [notTrailing, isLeading] at denotes
  | case8 a b c d unit isUnit pieces notTrailing notLeading inductionHypothesis =>
      have isScalar :=
        And.intro (Bool.eq_false_iff.mpr notTrailing) (Bool.eq_false_iff.mpr notLeading)
      rw [denoted?_numbered isUnit isScalar.1 isScalar.2] at denotes
      obtain ⟨more, isMore, rfl⟩ := Option.map_eq_some_iff.mp denotes
      exact take?_quotedChars_escape (take?_escape_numbered isUnit isScalar.1 isScalar.2 _)
        (inductionHypothesis isMore)

theorem take?_quotedForm_inner (pieces : List Piece) (rest : List Char) :
    take? quotedForm (inner pieces ++ '"' :: rest) = some ((), rest) := by
  induction pieces with
  | nil => rw [inner, List.flatMap_nil, List.nil_append, take?_quotedForm, if_pos rfl]
  | cons piece pieces inductionHypothesis =>
      cases piece with
      | plain c isPlain =>
          show take? quotedForm (c :: (inner pieces ++ '"' :: rest)) = _
          rw [take?_quotedForm, if_neg isPlain.1, if_neg isPlain.2.1, isPlain.2.2]
          exact inductionHypothesis
      | named letter named isNamed =>
          show take? quotedForm ('\\' :: letter :: (inner pieces ++ '"' :: rest)) = _
          rw [take?_quotedForm, if_neg (by decide), if_pos rfl, take?_escapeForm,
            if_neg (ne_u_of_namedEscape? isNamed), isNamed]
          exact inductionHypothesis
      | numbered a b c d unit isUnit =>
          show
            take? quotedForm ('\\' :: 'u' :: a :: b :: c :: d :: (inner pieces ++ '"' :: rest)) = _
          rw [take?_quotedForm, if_neg (by decide), if_pos rfl, take?_escapeForm, if_pos rfl,
            take?_hexUnit_of_denotes isUnit]
          exact inductionHypothesis

end WebCompat.Json
