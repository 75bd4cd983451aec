import Mathlib.Data.List.Infix
import Mathlib.Data.List.TakeWhile
import WebCompat.Proofs.Text.Lowercase

/-!
Lower case of a part against lower case of the whole. Every character is lowered by itself but the
capital sigma, whose form depends on the letters around it. So the lower case of a part stands in
that of the whole, unless the whole gives a sigma of the part another form than the part alone does.
Only a sigma at an edge of the part can change its form.

Owns: the lower case of a piece between two others; when it is that of the piece alone; and the
pieces for which it is so wherever they stand.
-/

namespace WebCompat.Text

/-! ## Pieces of a text -/

/-- The lower case of a piece that stands between two others, the one before it given backwards. -/
def lowercaseBetween (before : List Char) : (piece after : List Char) → List Char
  | [], _ => []
  | c :: piece, after =>
      (if c = 'Σ' then [sigmaForm before (piece ++ after)] else lowercaseChar c)
        ++ lowercaseBetween (c :: before) piece after

/-- The lower case of a text, cut behind any of its fronts. -/
theorem lowercaseAfter_append (before piece after : List Char) :
    lowercaseAfter before (piece ++ after) =
      lowercaseBetween before piece after ++ lowercaseAfter (piece.reverse ++ before) after := by
  induction piece generalizing before with
  | nil => rfl
  | cons c piece inductionHypothesis =>
      rw [List.cons_append, lowercaseAfter, inductionHypothesis, lowercaseBetween,
        List.append_assoc, List.reverse_cons, List.append_assoc, List.singleton_append]

theorem lowercaseBetween_nil (before piece : List Char) :
    lowercaseBetween before piece [] = lowercaseAfter before piece := by
  have whole := lowercaseAfter_append before piece []
  rw [List.append_nil, lowercaseAfter, List.append_nil] at whole
  exact whole.symm

theorem length_lowercaseBetween (piece : List Char) (before after other back : List Char) :
    (lowercaseBetween before piece after).length = (lowercaseBetween other piece back).length := by
  induction piece generalizing before other with
  | nil => rfl
  | cons c piece inductionHypothesis =>
      rw [lowercaseBetween, lowercaseBetween, List.length_append, List.length_append,
        inductionHypothesis (c :: before) (c :: other)]
      split <;> rfl

/-- The lower case of a piece is the same in two places exactly if its sigmas have the same forms
there. The induction is over the piece, and what comes before it grows by what was read. -/
theorem lowercaseBetween_eq_iff {piece before after other back : List Char} :
    lowercaseBetween before piece after = lowercaseBetween other piece back ↔
      ∀ front rest, piece = front ++ 'Σ' :: rest →
        sigmaForm (front.reverse ++ before) (rest ++ after) =
          sigmaForm (front.reverse ++ other) (rest ++ back) := by
  induction piece generalizing before other with
  | nil =>
      refine iff_of_true rfl ?_
      intro front rest isNil
      simp at isNil
  | cons c piece inductionHypothesis =>
      have sameLength : (lowercaseBetween (c :: before) piece after).length =
          (lowercaseBetween (c :: other) piece back).length :=
        length_lowercaseBetween piece _ _ _ _
      rw [lowercaseBetween, lowercaseBetween]
      constructor
      · intro same front rest isSplit
        obtain ⟨sameFirst, sameRest⟩ := List.append_inj' same sameLength
        cases front with
        | nil =>
            obtain ⟨rfl, rfl⟩ := List.cons.inj isSplit
            rw [if_pos rfl, if_pos rfl] at sameFirst
            exact List.singleton_inj.mp sameFirst
        | cons first front =>
            obtain ⟨rfl, isRest⟩ := List.cons.inj isSplit
            have later := inductionHypothesis.mp sameRest front rest isRest
            simpa using later
      · intro same
        have sameRest := inductionHypothesis.mpr fun front rest isSplit => by
          have later := same (c :: front) rest (by rw [isSplit, List.cons_append])
          simpa using later
        rw [sameRest]
        congr 1
        split
        · rename_i isSigma
          subst isSigma
          have here := same [] piece rfl
          simp only [List.reverse_nil, List.nil_append] at here
          rw [here]
        · rfl

/-! ## Sigmas at the edges -/

/-- Whether every capital sigma of a piece has the form between two others, the one before it given
backwards, that it has in the piece alone. -/
def KeepsForms (before piece after : List Char) : Prop :=
  ∀ front rest, piece = front ++ 'Σ' :: rest →
    sigmaForm (front.reverse ++ before) (rest ++ after) = sigmaForm front.reverse rest

/-- Whether a capital sigma of a text takes its form from what stands around the text. It is the
last letter behind a cased one, so that any cased letter behind the text changes it; or it is the
first one and nothing cased follows it, so that any cased letter before the text may change it.
Characters that are case-ignorable count as nothing. -/
def HasLooseSigma (text : List Char) : Prop :=
  ∃ front rest, text = front ++ 'Σ' :: rest ∧
    (meetsCased front.reverse = true ∧ (∀ c ∈ rest, isCaseIgnorable c = true) ∨
      (∀ c ∈ front, isCaseIgnorable c = true) ∧ meetsCased rest = false)

/-- The lower case of a piece is that of the piece alone exactly if its sigmas keep their forms. -/
theorem lowercaseBetween_eq_lowercaseAfter_iff {before piece after : List Char} :
    lowercaseBetween before piece after = lowercaseAfter [] piece ↔
      KeepsForms before piece after := by
  rw [← lowercaseBetween_nil, lowercaseBetween_eq_iff, KeepsForms]
  simp only [List.append_nil]

theorem meetsCased_append_of_ignorable {text : List Char}
    (isIgnorable : ∀ c ∈ text, isCaseIgnorable c = true) (more : List Char) :
    meetsCased (text ++ more) = meetsCased more := by
  rw [meetsCased, List.dropWhile_append_of_pos isIgnorable, meetsCased]

theorem meetsCased_append_of_not_ignorable {text : List Char}
    (notIgnorable : ¬ ∀ c ∈ text, isCaseIgnorable c = true) (more : List Char) :
    meetsCased (text ++ more) = meetsCased text := by
  have someLeft : text.dropWhile isCaseIgnorable ≠ [] := fun nothingLeft =>
    notIgnorable (List.dropWhile_eq_nil_iff.mp nothingLeft)
  rw [meetsCased, List.dropWhile_append, if_neg (by simpa using someLeft),
    List.head?_append_of_ne_nil _ someLeft, meetsCased]

theorem meetsCased_of_ignorable {text : List Char}
    (isIgnorable : ∀ c ∈ text, isCaseIgnorable c = true) : meetsCased text = false := by
  rw [meetsCased, List.dropWhile_eq_nil_iff.mpr isIgnorable]
  rfl

/-- A sigma that is not loose has cased letters around it within its text, or letters that are not
cased, and either fixes its form. -/
theorem keepsForms_of_not_hasLooseSigma {piece : List Char} (notLoose : ¬ HasLooseSigma piece)
    (before after : List Char) : KeepsForms before piece after := by
  intro front rest isSplit
  unfold sigmaForm
  by_cases ignorableFront : ∀ c ∈ front, isCaseIgnorable c = true
  · have meetsRest : meetsCased rest = true := by
      apply Bool.not_eq_false _ |>.mp
      intro meetsNone
      exact notLoose ⟨front, rest, isSplit, Or.inr ⟨ignorableFront, meetsNone⟩⟩
    have notIgnorable : ¬ ∀ c ∈ rest, isCaseIgnorable c = true := by
      intro isIgnorable
      rw [meetsCased_of_ignorable isIgnorable] at meetsRest
      cases meetsRest
    rw [meetsCased_append_of_not_ignorable notIgnorable, meetsRest]
    simp
  · have notIgnorable : ¬ ∀ c ∈ front.reverse, isCaseIgnorable c = true := by
      simpa using ignorableFront
    rw [meetsCased_append_of_not_ignorable notIgnorable]
    cases meetsFront : meetsCased front.reverse with
    | false => simp
    | true =>
        have restNotIgnorable : ¬ ∀ c ∈ rest, isCaseIgnorable c = true := by
          intro isIgnorable
          exact notLoose ⟨front, rest, isSplit, Or.inl ⟨meetsFront, isIgnorable⟩⟩
        rw [meetsCased_append_of_not_ignorable restNotIgnorable]

/-! ## Loose sigmas -/

section

variable {α : Type} {part text : List α} {a : α}

/-- A part as long as the rest of a text is the rest, or begins where the text does. -/
theorem eq_or_head?_of_infix_cons (inside : part <:+: a :: text)
    (sameLength : part.length = text.length) : part = text ∨ part.head? = some a := by
  rcases List.infix_cons_iff.mp inside with atFront | later
  · cases part with
    | nil => exact Or.inl (List.length_eq_zero_iff.mp sameLength.symm).symm
    | cons first part =>
        obtain ⟨isFirst, -⟩ := List.cons_prefix_cons.mp atFront
        exact Or.inr (congrArg some isFirst)
  · exact Or.inl (later.eq_of_length sameLength)

private theorem eq_or_getLast?_of_infix_append (inside : part <:+: text ++ [a])
    (sameLength : part.length = text.length) : part = text ∨ part.getLast? = some a := by
  have backwards : part.reverse <:+: a :: text.reverse := by
    simpa using List.reverse_infix.mpr inside
  rcases eq_or_head?_of_infix_cons backwards (by simpa using sameLength) with same | isFirst
  · exact Or.inl (List.reverse_injective same)
  · exact Or.inr (by simpa using isFirst)

end

/-- Besides any character there is a cased letter in lower case. -/
theorem exists_cased_ne (other : Option Char) :
    ∃ c, other ≠ some c ∧ meetsCased [c] = true ∧ IsLowercase c := by
  by_cases isLetter : other = some 'a'
  · refine ⟨'b', ?_, by decide, by decide, by decide⟩
    rw [isLetter]
    decide
  · exact ⟨'a', isLetter, by decide, by decide, by decide⟩

/-- **A loose sigma hides its text in another one.** Around every text with a loose sigma there can
be a letter with which the lower case of the text does not stand in that of the whole. -/
theorem exists_not_infix_of_hasLooseSigma {piece : List Char} (loose : HasLooseSigma piece) :
    ∃ before after,
      ¬ lowercaseAfter [] piece <:+: lowercaseAfter [] (before ++ piece ++ after) := by
  have sameLength : ∀ before after, (lowercaseAfter [] piece).length =
      (lowercaseBetween before piece after).length := by
    intro before after
    rw [← lowercaseBetween_nil]
    exact length_lowercaseBetween piece [] [] before after
  obtain ⟨front, rest, isSplit, ⟨meetsFront, ignorableRest⟩ | ⟨ignorableFront, meetsRest⟩⟩ := loose
  · -- A letter behind the text keeps the sigma from being final.
    obtain ⟨c, notLast, isCased, isLower⟩ := exists_cased_ne (lowercaseAfter [] piece).getLast?
    have lowered : ∀ before, lowercaseAfter before [c] = [c] :=
      lowercaseAfter_of_isLowercase (by simpa using isLower)
    refine ⟨[], [c], ?_⟩
    rw [List.nil_append, lowercaseAfter_append, lowered]
    intro inside
    rcases eq_or_getLast?_of_infix_append inside (sameLength [] [c]) with same | isLast
    · have keeps := lowercaseBetween_eq_lowercaseAfter_iff.mp same.symm front rest isSplit
      rw [List.append_nil, sigmaForm, sigmaForm, meetsCased_append_of_ignorable ignorableRest,
        meetsFront, isCased, meetsCased_of_ignorable ignorableRest] at keeps
      exact absurd keeps (by decide)
    · exact notLast isLast
  · -- A letter before the text makes the sigma final.
    obtain ⟨c, notFirst, isCased, isLower⟩ := exists_cased_ne (lowercaseAfter [] piece).head?
    have ignorableReverse : ∀ c ∈ front.reverse, isCaseIgnorable c = true := by
      simpa using ignorableFront
    refine ⟨[c], [], ?_⟩
    rw [List.append_nil, List.singleton_append, lowercaseAfter, if_neg isLower.1, isLower.2,
      List.singleton_append, ← lowercaseBetween_nil [c]]
    intro inside
    rcases eq_or_head?_of_infix_cons inside (sameLength [c] []) with same | isFirst
    · have keeps := lowercaseBetween_eq_lowercaseAfter_iff.mp same.symm front rest isSplit
      rw [List.append_nil, sigmaForm, sigmaForm, meetsCased_append_of_ignorable ignorableReverse,
        isCased, meetsRest, meetsCased_of_ignorable ignorableReverse] at keeps
      exact absurd keeps (by decide)
    · exact notFirst isFirst

/-! ## Parts of a text -/

/-- The lower case of a part stands in that of the whole, if the sigmas of the part keep their
forms. -/
theorem lowercase_infix_of_keepsForms {part text : String} {before after : List Char}
    (split : text.toList = before ++ part.toList ++ after)
    (keeps : KeepsForms before.reverse part.toList after) :
    (lowercase part).toList <:+: (lowercase text).toList := by
  rw [lowercase, lowercase, String.toList_ofList, String.toList_ofList, split, List.append_assoc,
    lowercaseAfter_append [] before, lowercaseAfter_append (before.reverse ++ []) part.toList,
    List.append_nil, lowercaseBetween_eq_lowercaseAfter_iff.mpr keeps, ← List.append_assoc]
  exact List.infix_append _ _ _

end WebCompat.Text
