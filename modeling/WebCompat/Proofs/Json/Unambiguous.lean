import WebCompat.Proofs.Json.Enclosed

/-!
Texts begin with one tree at most. The kind of a value shows in its first character; quoted texts
and numbers are determined by their characters, lists and objects by their entries.

Owns: induction over trees; kinds of values and the characters that they begin with; that no token
begins or ends with white space; and that a text determines the tree that it begins with.
-/

namespace WebCompat.Json

open Reader (take?)

/-! ## Trees by their parts -/

/-- Induction over trees, by the items of lists and the values of members. -/
@[elab_as_elim, induction_eliminator]
theorem Tree.induction {motive : Tree → Prop} (null : motive .null)
    (bool : ∀ value, motive (.bool value))
    (number : ∀ isNegative figure, motive (.number isNegative figure))
    (text : ∀ pieces, motive (.text pieces))
    (list : ∀ items, (∀ item ∈ items, motive item) → motive (.list items))
    (object : ∀ members, (∀ member ∈ members, motive member.2) → motive (.object members)) :
    ∀ tree, motive tree
  | .null => null
  | .bool value => bool value
  | .number isNegative figure => number isNegative figure
  | .text pieces => text pieces
  | .list items => list items fun item _ => Tree.induction null bool number text list object item
  | .object members =>
      object members fun (key, value) isMember =>
        have smaller : sizeOf value < 1 + sizeOf members := by
          have isPart := List.sizeOf_lt_of_mem isMember
          rw [Prod.mk.sizeOf_spec] at isPart
          omega
        Tree.induction null bool number text list object value

/-- The kinds of values, told apart by the first character. -/
inductive Kind where
  | null
  | bool (value : Bool)
  | number (isNegative : Bool)
  | text
  | list
  | object
deriving DecidableEq

def Tree.kind : Tree → Kind
  | .null => .null
  | .bool value => .bool value
  | .number isNegative _ => .number isNegative
  | .text _ => .text
  | .list _ => .list
  | .object _ => .object

/-- The kind of the values that begin with a character. -/
def kindOf? (c : Char) : Option Kind :=
  if c = 'n' then some .null
  else if c = 't' then some (.bool true)
  else if c = 'f' then some (.bool false)
  else if c = '-' then some (.number true)
  else if c.isDigit then some (.number false)
  else if c = '"' then some .text
  else if c = '[' then some .list
  else if c = '\x7b' then some .object
  else none

theorem eq_of_kindOf?_null {c : Char} (isKind : kindOf? c = some .null) : c = 'n' := by
  by_contra notN
  rw [kindOf?, if_neg notN] at isKind
  split_ifs at isKind <;> cases isKind

private theorem kindOf?_of_isDigit {c : Char} (isDigit : c.isDigit = true) :
    kindOf? c = some (.number false) := by
  have different : ∀ d : Char, d.isDigit = false → c ≠ d := by
    rintro d notDigit rfl
    rw [isDigit] at notDigit
    cases notDigit
  rw [kindOf?, if_neg (different 'n' rfl), if_neg (different 't' rfl), if_neg (different 'f' rfl),
    if_neg (different '-' rfl), if_pos isDigit]

theorem Figure.exists_cons (figure : Figure) :
    ∃ c more, figure.chars = c :: more ∧ c.isDigit = true := by
  obtain ⟨numeral, chars, written⟩ := figure
  cases written with
  | intro isWhole _ _ =>
      obtain ⟨c, more, rfl⟩ := List.exists_cons_of_ne_nil isWhole.notEmpty
      exact ⟨c, _, rfl, isWhole.digit c List.mem_cons_self⟩

theorem Tree.exists_opening (tree : Tree) :
    ∃ c token tokens, tree.tokens = (c :: token) :: tokens ∧ kindOf? c = some tree.kind := by
  cases tree with
  | null => exact ⟨_, _, _, rfl, rfl⟩
  | bool value => cases value <;> exact ⟨_, _, _, rfl, rfl⟩
  | number isNegative figure =>
      obtain ⟨c, more, isChars, isDigit⟩ := figure.exists_cons
      cases isNegative with
      | true => exact ⟨_, _, _, rfl, rfl⟩
      | false => exact ⟨c, more, [], by rw [tokens, isChars]; rfl, kindOf?_of_isDigit isDigit⟩
  | text pieces => exact ⟨_, _, _, rfl, rfl⟩
  | list items => exact ⟨_, _, _, rfl, rfl⟩
  | object members => exact ⟨_, _, _, rfl, rfl⟩

theorem Tree.tokens_ne_nil (tree : Tree) : tree.tokens ≠ [] := by
  obtain ⟨_, _, _, isTokens, _⟩ := tree.exists_opening
  rw [isTokens]
  exact List.cons_ne_nil _ _

theorem Tree.exists_of_after? {tree : Tree} {text rest : List Char}
    (begins : after? tree.tokens text = some rest) :
    ∃ c behind, skipSpace text = c :: behind ∧ kindOf? c = some tree.kind := by
  obtain ⟨c, token, tokens, isTokens, isKind⟩ := tree.exists_opening
  rw [isTokens] at begins
  obtain ⟨behind, split, _⟩ := after?_cons_eq_some_iff.mp begins
  exact ⟨c, _, split, isKind⟩

/-- No tree begins with a closing mark. -/
theorem Tree.exists_tokens (tree : Tree) {closing : Char} (closes : IsClosing closing) :
    ∃ c token tokens, tree.tokens = (c :: token) :: tokens ∧ c ≠ closing := by
  obtain ⟨c, token, tokens, isTokens, isKind⟩ := tree.exists_opening
  refine ⟨c, token, tokens, isTokens, ?_⟩
  rintro rfl
  rcases closes with rfl | rfl <;> cases isKind

/-! ## Tokens -/

/-- A token has characters, and neither the first nor the last of them is white space. -/
structure IsToken (token : List Char) : Prop where
  begins : ∃ c more, token = c :: more ∧ isSpace c = false
  ends : ∃ more c, token = more ++ [c] ∧ isSpace c = false

theorem IsToken.notEmpty {token : List Char} (isToken : IsToken token) : token ≠ [] := by
  obtain ⟨c, more, rfl, _⟩ := isToken.begins
  exact List.cons_ne_nil c more

private theorem isToken_single {c : Char} (notSpace : isSpace c = false) : IsToken [c] :=
  ⟨⟨c, [], rfl, notSpace⟩, ⟨[], c, rfl, notSpace⟩⟩

/-- Characters without any white space are a token. -/
theorem isToken_of_forall {c : Char} {more : List Char}
    (notSpace : ∀ d ∈ c :: more, isSpace d = false) : IsToken (c :: more) := by
  refine ⟨⟨c, more, rfl, notSpace c List.mem_cons_self⟩, ?_⟩
  refine ⟨(c :: more).dropLast, (c :: more).getLast (List.cons_ne_nil c more), ?_, ?_⟩
  · exact (List.dropLast_append_getLast _).symm
  · exact notSpace _ (List.getLast_mem _)

private theorem isToken_quotation (pieces : List Piece) : IsToken (quotation pieces) :=
  ⟨⟨'"', _, rfl, rfl⟩, ⟨'"' :: inner pieces, '"', rfl, rfl⟩⟩

private theorem isSpace_of_isDigit {c : Char} (isDigit : c.isDigit = true) : isSpace c = false := by
  rw [Bool.eq_false_iff]
  intro blank
  rcases (by simpa [isSpace, or_assoc] using blank :
    c = ' ' ∨ c = '\t' ∨ c = '\n' ∨ c = '\r') with rfl | rfl | rfl | rfl <;> cases isDigit

theorem IsDigits.notSpace {digits : List Char} (isDigits : IsDigits digits) :
    ∀ c ∈ digits, isSpace c = false := fun c member =>
  isSpace_of_isDigit (isDigits.digit c member)

private theorem isSpace_of_isPowerLetter {c : Char} (isLetter : isPowerLetter c = true) :
    isSpace c = false := by
  rcases (by simpa [isPowerLetter] using isLetter : c = 'e' ∨ c = 'E') with rfl | rfl <;> rfl

theorem FractionWritten.notSpace {digits point : List Char}
    (written : FractionWritten digits point) : ∀ c ∈ point, isSpace c = false := by
  cases written with
  | absent => simp
  | present isDigits =>
      rw [List.forall_mem_cons]
      exact ⟨rfl, isDigits.notSpace⟩

theorem PowerWritten.notSpace {exponent : Option (Bool × List Char)} {power : List Char}
    (written : PowerWritten exponent power) : ∀ c ∈ power, isSpace c = false := by
  cases written with
  | absent => simp
  | unsigned isLetter isDigits =>
      rw [List.forall_mem_cons]
      exact ⟨isSpace_of_isPowerLetter isLetter, isDigits.notSpace⟩
  | plus isLetter isDigits | minus isLetter isDigits =>
      rw [List.forall_mem_cons, List.forall_mem_cons]
      exact ⟨isSpace_of_isPowerLetter isLetter, rfl, isDigits.notSpace⟩

theorem Figure.notSpace (figure : Figure) : ∀ c ∈ figure.chars, isSpace c = false := by
  obtain ⟨n, chars, written⟩ := figure
  cases written with
  | intro isWhole pointWritten powerWritten =>
      simp only [List.forall_mem_append]
      exact ⟨isWhole.notSpace, pointWritten.notSpace, powerWritten.notSpace⟩

private theorem forall_mem_entryTokens {P : List Char → Prop} {closing : Char}
    {entries : List (List (List Char))} (ofClosing : P [closing]) (ofComma : P [','])
    (ofEntry : ∀ entry ∈ entries, ∀ token ∈ entry, P token) :
    ∀ token ∈ entryTokens closing entries, P token := by
  have ofMore : ∀ entries : List (List (List Char)), (∀ entry ∈ entries, ∀ token ∈ entry, P token) →
      ∀ token ∈ moreTokens closing entries, P token := by
    intro entries
    induction entries with
    | nil => simpa [moreTokens] using ofClosing
    | cons entry entries inductionHypothesis =>
        intro each
        rw [List.forall_mem_cons] at each
        simp only [moreTokens, List.forall_mem_cons, List.forall_mem_append]
        exact ⟨ofComma, each.1, inductionHypothesis each.2⟩
  cases entries with
  | nil => simpa [entryTokens] using ofClosing
  | cons entry entries =>
      rw [List.forall_mem_cons] at ofEntry
      simp only [entryTokens, List.forall_mem_append]
      exact ⟨ofEntry.1, ofMore entries ofEntry.2⟩

theorem Tree.isToken (tree : Tree) : ∀ token ∈ tree.tokens, IsToken token := by
  induction tree with
  | null =>
      simp only [tokens, List.forall_mem_singleton]
      exact isToken_of_forall (by simp [isSpace])
  | bool value =>
      cases value <;> simp only [tokens, List.forall_mem_singleton] <;>
        exact isToken_of_forall (by simp [isSpace])
  | number isNegative figure =>
      obtain ⟨c, more, isChars, isDigit⟩ := figure.exists_cons
      have notSpace := figure.notSpace
      rw [tokens, List.forall_mem_singleton]
      cases isNegative with
      | true => exact isToken_of_forall (List.forall_mem_cons.mpr ⟨rfl, notSpace⟩)
      | false =>
          rw [isChars] at notSpace ⊢
          exact isToken_of_forall notSpace
  | text pieces =>
      rw [tokens, List.forall_mem_singleton]
      exact isToken_quotation pieces
  | list items inductionHypothesis =>
      rw [tokens, itemTokens_eq_map, List.forall_mem_cons]
      refine ⟨isToken_single rfl,
        forall_mem_entryTokens (isToken_single rfl) (isToken_single rfl) ?_⟩
      simpa using inductionHypothesis
  | object members inductionHypothesis =>
      rw [tokens, memberTokens_eq_map, List.forall_mem_cons]
      refine ⟨isToken_single rfl,
        forall_mem_entryTokens (isToken_single rfl) (isToken_single rfl) ?_⟩
      intro entry isEntry
      obtain ⟨member, isMember, rfl⟩ := List.mem_map.mp isEntry
      rw [ofMember, List.forall_mem_cons, List.forall_mem_cons]
      exact ⟨isToken_quotation member.1, isToken_single rfl, inductionHypothesis member isMember⟩

/-! ## One tree at most -/

theorem Piece.exists_cons (piece : Piece) : ∃ c more, piece.chars = c :: more ∧ c ≠ '"' := by
  cases piece with
  | plain c isPlain => exact ⟨c, [], rfl, isPlain.1⟩
  | named | numbered => exact ⟨_, _, rfl, by decide⟩

/-- A text begins with one piece only. -/
theorem Piece.eq_of_append {piece other : Piece} {rest left : List Char}
    (same : piece.chars ++ rest = other.chars ++ left) : piece = other ∧ rest = left := by
  cases piece with
  | plain c isPlain =>
      cases other with
      | plain d =>
          cases same
          exact ⟨rfl, rfl⟩
      | named | numbered => exact absurd (List.cons.inj same).1 isPlain.2.1
  | named letter denoted denotes =>
      cases other with
      | plain d otherIsPlain => exact absurd (List.cons.inj same).1.symm otherIsPlain.2.1
      | named _ _ alsoDenotes =>
          cases same
          cases denotes.symm.trans alsoDenotes
          exact ⟨rfl, rfl⟩
      | numbered =>
          cases same
          cases denotes
  | numbered a b c d unit denotes =>
      cases other with
      | plain d otherIsPlain => exact absurd (List.cons.inj same).1.symm otherIsPlain.2.1
      | named _ _ alsoDenotes =>
          cases same
          cases alsoDenotes
      | numbered _ _ _ _ _ alsoDenotes =>
          cases same
          cases denotes.symm.trans alsoDenotes
          exact ⟨rfl, rfl⟩

private theorem eq_of_inner_append {pieces others : List Piece} {rest left : List Char}
    (same : inner pieces ++ '"' :: rest = inner others ++ '"' :: left) :
    pieces = others ∧ rest = left := by
  have notQuote : ∀ {piece : Piece} {text rest : List Char}, piece.chars ++ text ≠ '"' :: rest := by
    intro piece text rest isQuote
    obtain ⟨c, more, isChars, notQuote⟩ := piece.exists_cons
    rw [isChars] at isQuote
    exact notQuote (List.cons.inj isQuote).1
  induction pieces generalizing others with
  | nil =>
      cases others with
      | nil =>
          cases same
          exact ⟨rfl, rfl⟩
      | cons other others =>
          rw [inner, inner, List.flatMap_cons, List.append_assoc] at same
          exact absurd same.symm notQuote
  | cons piece pieces inductionHypothesis =>
      rw [inner, List.flatMap_cons, List.append_assoc] at same
      cases others with
      | nil => exact absurd same notQuote
      | cons other others =>
          rw [inner, List.flatMap_cons, List.append_assoc] at same
          obtain ⟨rfl, later⟩ := Piece.eq_of_append same
          obtain ⟨rfl, sameRest⟩ := inductionHypothesis later
          exact ⟨rfl, sameRest⟩

/-- A text begins with one number only that can end there. -/
theorem Figure.eq_of_append {figure other : Figure} {rest left : List Char}
    (same : figure.chars ++ rest = other.chars ++ left) (breaks : Breaks rest)
    (alsoBreaks : Breaks left) : figure = other ∧ rest = left := by
  obtain ⟨n, chars, written⟩ := figure
  obtain ⟨m, otherChars, otherWritten⟩ := other
  have taken : take? (Json.numeral .endInValue) (chars ++ rest) = some (n, rest) :=
    take?_numeral_append written breaks
  have alsoTaken : take? (Json.numeral .endInValue) (otherChars ++ left) = some (m, left) :=
    take?_numeral_append otherWritten alsoBreaks
  dsimp only at same
  rw [same, alsoTaken] at taken
  cases taken
  cases List.append_cancel_right same
  exact ⟨rfl, rfl⟩

/-- Whether a tree can end in front of a text. -/
def Tree.EndsAt : Tree → List Char → Prop
  | .number _ _, rest => Breaks rest
  | _, _ => True

theorem Tree.endsAt_of_breaks {rest : List Char} (breaks : Breaks rest) (tree : Tree) :
    tree.EndsAt rest := by
  cases tree with
  | number => exact breaks
  | null | bool | text | list | object => trivial

theorem after?_single {token text rest : List Char} :
    after? [token] text = some rest ↔ skipSpace text = token ++ rest := by
  rw [after?_cons_eq_some_iff]
  simp [after?]

theorem after?_quotation {pieces : List Piece} {tokens : List (List Char)} {text rest : List Char} :
    after? (quotation pieces :: tokens) text = some rest ↔
      ∃ behind, skipSpace text = '"' :: (inner pieces ++ '"' :: behind) ∧
        after? tokens behind = some rest := by
  rw [after?_cons_eq_some_iff]
  simp [quotation]

/-- A text begins with values of one kind only. -/
theorem Tree.kind_eq_of_after? {tree other : Tree} {text rest left : List Char}
    (begins : after? tree.tokens text = some rest)
    (alsoBegins : after? other.tokens text = some left) : tree.kind = other.kind := by
  obtain ⟨c, _, split, isKind⟩ := Tree.exists_of_after? begins
  obtain ⟨d, _, alsoSplit, isOther⟩ := Tree.exists_of_after? alsoBegins
  obtain ⟨rfl, _⟩ := List.cons.inj (split.symm.trans alsoSplit)
  exact Option.some.inj (isKind.symm.trans isOther)

/-- **A text begins with one tree at most, and leaves one text behind it.** -/
theorem Tree.eq_of_after? {tree other : Tree} {text rest left : List Char}
    (begins : after? tree.tokens text = some rest) (ends : tree.EndsAt rest)
    (alsoBegins : after? other.tokens text = some left) (alsoEnds : other.EndsAt left) :
    tree = other ∧ rest = left := by
  induction tree generalizing other text rest left with
  | null =>
      cases other <;> cases kind_eq_of_after? begins alsoBegins
      exact ⟨rfl, Option.some.inj (begins.symm.trans alsoBegins)⟩
  | bool value =>
      cases other <;> cases kind_eq_of_after? begins alsoBegins
      exact ⟨rfl, Option.some.inj (begins.symm.trans alsoBegins)⟩
  | number isNegative figure =>
      cases other with
      | number alsoNegative otherFigure =>
          cases kind_eq_of_after? begins alsoBegins
          have same := (after?_single.mp begins).symm.trans (after?_single.mp alsoBegins)
          have sameDigits : figure.chars ++ rest = otherFigure.chars ++ left := by
            cases isNegative with
            | true => exact (List.cons.inj same).2
            | false => exact same
          obtain ⟨rfl, sameRest⟩ := Figure.eq_of_append sameDigits ends alsoEnds
          exact ⟨rfl, sameRest⟩
      | null | bool | text | list | object => cases kind_eq_of_after? begins alsoBegins
  | text pieces =>
      cases other with
      | text others =>
          obtain ⟨_, split, isRest⟩ := after?_quotation.mp begins
          obtain ⟨_, alsoSplit, isLeft⟩ := after?_quotation.mp alsoBegins
          have same := (List.cons.inj (split.symm.trans alsoSplit)).2
          obtain ⟨rfl, rfl⟩ := eq_of_inner_append same
          exact ⟨rfl, Option.some.inj (isRest.symm.trans isLeft)⟩
      | null | bool | number | list | object => cases kind_eq_of_after? begins alsoBegins
  | list items inductionHypothesis =>
      cases other with
      | list others =>
          rw [tokens, itemTokens_eq_map] at begins alsoBegins
          obtain ⟨_, split, later⟩ := after?_cons_eq_some_iff.mp begins
          obtain ⟨_, alsoSplit, alsoLater⟩ := after?_cons_eq_some_iff.mp alsoBegins
          cases split.symm.trans alsoSplit
          have closes : IsClosing ']' := .inl rfl
          have determined : ∀ item ∈ items, IsDetermined tokens item :=
            fun item isItem _ _ _ _ begins breaks alsoBegins alsoBreaks =>
              inductionHypothesis item isItem begins (endsAt_of_breaks breaks _) alsoBegins
                (endsAt_of_breaks alsoBreaks _)
          obtain ⟨rfl, sameRest⟩ := eq_of_after?_entryTokens closes
            (fun item => exists_tokens item closes) determined later alsoLater
          exact ⟨rfl, sameRest⟩
      | null | bool | number | text | object => cases kind_eq_of_after? begins alsoBegins
  | object members inductionHypothesis =>
      cases other with
      | object others =>
          rw [tokens, memberTokens_eq_map] at begins alsoBegins
          obtain ⟨_, split, later⟩ := after?_cons_eq_some_iff.mp begins
          obtain ⟨_, alsoSplit, alsoLater⟩ := after?_cons_eq_some_iff.mp alsoBegins
          cases split.symm.trans alsoSplit
          have closes : IsClosing '\x7d' := .inr rfl
          have determined : ∀ member ∈ members, IsDetermined ofMember member := by
            rintro ⟨key, value⟩ isMember ⟨otherKey, otherValue⟩ text rest left begins breaks
              alsoBegins alsoBreaks
            obtain ⟨_, split, afterKey⟩ := after?_quotation.mp begins
            obtain ⟨_, alsoSplit, alsoAfterKey⟩ := after?_quotation.mp alsoBegins
            obtain ⟨rfl, rfl⟩ :=
              eq_of_inner_append (List.cons.inj (split.symm.trans alsoSplit)).2
            obtain ⟨_, splitColon, isValue⟩ := after?_cons_eq_some_iff.mp afterKey
            obtain ⟨_, alsoSplitColon, isOther⟩ := after?_cons_eq_some_iff.mp alsoAfterKey
            cases splitColon.symm.trans alsoSplitColon
            obtain ⟨same, sameRest⟩ := inductionHypothesis _ isMember isValue
              (endsAt_of_breaks breaks _) isOther (endsAt_of_breaks alsoBreaks _)
            exact ⟨congrArg (Prod.mk key) same, sameRest⟩
          obtain ⟨rfl, sameRest⟩ := eq_of_after?_entryTokens closes
            (fun member => ⟨'"', _, _, rfl, by decide⟩) determined later alsoLater
          exact ⟨rfl, sameRest⟩
      | null | bool | number | text | list => cases kind_eq_of_after? begins alsoBegins

end WebCompat.Json
