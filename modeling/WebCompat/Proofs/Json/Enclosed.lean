import WebCompat.Proofs.Json.Numeral

/-!
Entries between marks, read into a state one after another. If a reader of single entries goes by
their tokens, so does the reader of all of them, and the state at the end is the one to which the
entries lead in their order.

Owns: the run lemmas of entries in both directions, and that a text determines its entries if it
determines each of them.
-/

namespace WebCompat.Json

open Reader (take?)

variable {α σ : Type}

/-- The marks that close a list or an object. -/
def IsClosing (c : Char) : Prop :=
  c = ']' ∨ c = '\x7d'

/-- What it means that a reader of entries goes by their tokens. -/
structure EntryReads (closing : Char) (entry : σ → Reader σ) (tokensOf : α → List (List Char))
    (step : σ → α → Option σ) : Prop where
  begins : ∀ a, ∃ c token tokens, tokensOf a = (c :: token) :: tokens ∧ c ≠ closing
  sound : ∀ {state text next rest}, take? (entry state) text = some (next, rest) →
    ∃ a, after? (tokensOf a) text = some rest ∧ step state a = some next
  complete : ∀ {a state text next rest}, skipSpace text = text →
    after? (tokensOf a) text = some rest → Breaks rest → step state a = some next →
    take? (entry state) text = some (next, rest)

/-! ## What stands behind an entry -/

theorem continuesNumber_of_isSpace {c : Char} (blank : isSpace c = true) :
    continuesNumber c = false := by
  rcases (by simpa [isSpace, or_assoc] using blank :
    c = ' ' ∨ c = '\t' ∨ c = '\n' ∨ c = '\r') with rfl | rfl | rfl | rfl <;> rfl

private theorem breaks_of_skipSpace {text rest : List Char} {c : Char}
    (split : skipSpace text = c :: rest)
    (notContinued : continuesNumber c = false) : Breaks text := by
  cases text with
  | nil => cases split
  | cons d text =>
      intro other isHead
      cases isHead
      by_cases isBlank : isSpace d = true
      · exact continuesNumber_of_isSpace isBlank
      · rw [skipSpace_of_head (Bool.eq_false_iff.mpr isBlank)] at split
        cases split
        exact notContinued

theorem IsClosing.not_continuesNumber {closing : Char} (closes : IsClosing closing) :
    continuesNumber closing = false := by
  rcases closes with rfl | rfl <;> rfl

/-- Behind an entry there is a comma or the closing mark, perhaps after white space. -/
theorem breaks_of_moreTokens {closing : Char} (closes : IsClosing closing)
    {entries : List (List (List Char))} {text rest : List Char}
    (begins : after? (moreTokens closing entries) text = some rest) : Breaks text := by
  cases entries with
  | nil =>
      obtain ⟨_, split, _⟩ := after?_cons_eq_some_iff.mp begins
      exact breaks_of_skipSpace split closes.not_continuesNumber
  | cons entry entries =>
      obtain ⟨_, split, _⟩ := after?_cons_eq_some_iff.mp begins
      exact breaks_of_skipSpace split rfl

/-! ## Entries that are taken have tokens -/

section Reads

variable {enclosure : Enclosure} {entry : σ → Reader σ} {tokensOf : α → List (List Char)}
  {step : σ → α → Option σ} (reads : EntryReads enclosure.closing entry tokensOf step)

include reads

private theorem exists_of_moreEntries {state final : σ} {text rest : List Char}
    (taken : take? (moreEntries enclosure entry state) text = some (final, rest)) :
    ∃ entries : List α,
      after? (moreTokens enclosure.closing (entries.map tokensOf)) text = some rest ∧
      entries.foldlM step state = some final := by
  induction length : text.length using Nat.strongRecOn generalizing state text with
  | ind _ inductionHypothesis =>
      rw [take?_moreEntries] at taken
      have skipped := skipSpace_length_le text
      cases split : skipSpace text with
      | nil => simp [split] at taken
      | cons c behind =>
          rw [split] at taken skipped
          dsimp only at taken
          by_cases closes : c = enclosure.closing
          · rw [if_pos closes] at taken
            cases taken
            exact ⟨[], after?_cons_eq_some_iff.mpr ⟨rest, by rw [split, closes]; rfl, rfl⟩, rfl⟩
          · rw [if_neg closes] at taken
            by_cases isComma : c = ','
            · rw [if_pos isComma] at taken
              have skippedBehind := skipSpace_length_le behind
              cases splitBehind : skipSpace behind with
              | nil => simp [splitBehind] at taken
              | cons d others =>
                  rw [splitBehind] at taken skippedBehind
                  dsimp only at taken
                  by_cases ends : d = enclosure.closing
                  · rw [if_pos ends] at taken
                    cases taken
                  · rw [if_neg ends] at taken
                    obtain ⟨⟨next, left⟩, isFirst, later⟩ := Option.bind_eq_some_iff.mp taken
                    have shorter := Reader.length_lt_of_take? isFirst
                    obtain ⟨a, aBegins, toNext⟩ := reads.sound isFirst
                    obtain ⟨entries, begins, toFinal⟩ :=
                      inductionHypothesis left.length (by simp at *; omega) later rfl
                    refine ⟨a :: entries, ?_, ?_⟩
                    · obtain ⟨_, _, _, isTokens, _⟩ := reads.begins a
                      rw [← splitBehind, after?_skipSpace (by simp [isTokens])] at aBegins
                      rw [List.map_cons, moreTokens, after?_cons_eq_some_iff]
                      refine ⟨behind, by rw [split, isComma]; rfl, ?_⟩
                      rw [after?_append, aBegins]
                      exact begins
                    · rw [List.foldlM_cons, toNext]
                      exact toFinal
            · rw [if_neg isComma] at taken
              cases taken

/-- Entries that were taken are told by the tokens that the text begins with. -/
theorem exists_of_entries {state final : σ} {text rest : List Char}
    (taken : take? (entries enclosure entry state) text = some (final, rest)) :
    ∃ entries : List α,
      after? (entryTokens enclosure.closing (entries.map tokensOf)) text = some rest ∧
      entries.foldlM step state = some final := by
  rw [take?_entries] at taken
  cases split : skipSpace text with
  | nil => simp [split] at taken
  | cons c behind =>
      rw [split] at taken
      dsimp only at taken
      by_cases closes : c = enclosure.closing
      · rw [if_pos closes] at taken
        cases taken
        exact ⟨[], after?_cons_eq_some_iff.mpr ⟨rest, by rw [split, closes]; rfl, rfl⟩, rfl⟩
      · rw [if_neg closes] at taken
        obtain ⟨⟨next, left⟩, isFirst, later⟩ := Option.bind_eq_some_iff.mp taken
        obtain ⟨a, aBegins, toNext⟩ := reads.sound isFirst
        obtain ⟨entries, begins, toFinal⟩ := exists_of_moreEntries reads later
        refine ⟨a :: entries, ?_, ?_⟩
        · obtain ⟨_, _, _, isTokens, _⟩ := reads.begins a
          rw [← split, after?_skipSpace (by simp [isTokens])] at aBegins
          rw [List.map_cons, entryTokens, after?_append, aBegins]
          exact begins
        · rw [List.foldlM_cons, toNext]
          exact toFinal

/-! ## Entries are taken by their tokens -/

theorem take?_moreEntries_of_after? (closes : IsClosing enclosure.closing) {as : List α}
    {state final : σ} {text rest : List Char}
    (begins : after? (moreTokens enclosure.closing (as.map tokensOf)) text = some rest)
    (leads : as.foldlM step state = some final) :
    take? (moreEntries enclosure entry state) text = some (final, rest) := by
  induction as generalizing state text with
  | nil =>
      obtain ⟨behind, split, left⟩ := after?_cons_eq_some_iff.mp begins
      cases left
      cases leads
      rw [take?_moreEntries, split]
      exact if_pos rfl
  | cons a as inductionHypothesis =>
      obtain ⟨behind, split, later⟩ := after?_cons_eq_some_iff.mp begins
      obtain ⟨middle, aBegins, moreBegins⟩ :=
        Option.bind_eq_some_iff.mp ((after?_append _ _ _).symm.trans later)
      obtain ⟨next, toNext, toFinal⟩ := Option.bind_eq_some_iff.mp leads
      obtain ⟨d, token, tokens, isTokens, notClosing⟩ := reads.begins a
      have notEmpty : tokensOf a ≠ [] := by simp [isTokens]
      have first : take? (entry state) (skipSpace behind) = some (next, middle) :=
        reads.complete (skipSpace_skipSpace behind)
          ((after?_skipSpace notEmpty behind).trans aBegins)
          (breaks_of_moreTokens closes moreBegins) toNext
      rw [isTokens] at aBegins
      obtain ⟨_, splitBehind, _⟩ := after?_cons_eq_some_iff.mp aBegins
      rw [splitBehind, List.cons_append] at first
      have notComma : ',' ≠ enclosure.closing := by
        rcases closes with isClosing | isClosing <;> rw [isClosing] <;> decide
      rw [take?_moreEntries, split, List.cons_append]
      dsimp only
      rw [if_neg notComma, if_pos rfl, List.nil_append, splitBehind, List.cons_append]
      dsimp only
      rw [if_neg notClosing, first]
      exact inductionHypothesis moreBegins toFinal

/-- Entries are taken off a text that begins with their tokens. -/
theorem take?_entries_of_after? (closes : IsClosing enclosure.closing) {as : List α}
    {state final : σ} {text rest : List Char}
    (begins : after? (entryTokens enclosure.closing (as.map tokensOf)) text = some rest)
    (leads : as.foldlM step state = some final) :
    take? (entries enclosure entry state) text = some (final, rest) := by
  cases as with
  | nil =>
      obtain ⟨behind, split, left⟩ := after?_cons_eq_some_iff.mp begins
      cases left
      cases leads
      rw [take?_entries, split]
      exact if_pos rfl
  | cons a as =>
      obtain ⟨middle, aBegins, moreBegins⟩ :=
        Option.bind_eq_some_iff.mp ((after?_append _ _ _).symm.trans begins)
      obtain ⟨next, toNext, toFinal⟩ := Option.bind_eq_some_iff.mp leads
      obtain ⟨d, token, tokens, isTokens, notClosing⟩ := reads.begins a
      have notEmpty : tokensOf a ≠ [] := by simp [isTokens]
      have first : take? (entry state) (skipSpace text) = some (next, middle) :=
        reads.complete (skipSpace_skipSpace text) ((after?_skipSpace notEmpty text).trans aBegins)
          (breaks_of_moreTokens closes moreBegins) toNext
      rw [isTokens] at aBegins
      obtain ⟨_, split, _⟩ := after?_cons_eq_some_iff.mp aBegins
      rw [split, List.cons_append] at first
      rw [take?_entries, split, List.cons_append]
      dsimp only
      rw [if_neg notClosing, first]
      exact take?_moreEntries_of_after? reads closes moreBegins toFinal

end Reads

/-! ## Entries are determined by their text -/

section Determined

variable {closing : Char} (closes : IsClosing closing) {tokensOf : α → List (List Char)}

/-- What it means that a text in which a given entry stands, with nothing behind it that could
belong to a number, holds no other entry there. -/
def IsDetermined (tokensOf : α → List (List Char)) (a : α) : Prop :=
  ∀ {b text rest left}, after? (tokensOf a) text = some rest → Breaks rest →
    after? (tokensOf b) text = some left → Breaks left → a = b ∧ rest = left

include closes

private theorem eq_of_after?_moreTokens {as others : List α}
    (determined : ∀ a ∈ as, IsDetermined tokensOf a) {text rest left : List Char}
    (begins : after? (moreTokens closing (as.map tokensOf)) text = some rest)
    (alsoBegins : after? (moreTokens closing (others.map tokensOf)) text = some left) :
    as = others ∧ rest = left := by
  have notComma : ',' ≠ closing := by
    rcases closes with rfl | rfl <;> decide
  induction as generalizing others text with
  | nil =>
      obtain ⟨_, split, isRest⟩ := after?_cons_eq_some_iff.mp begins
      obtain _ | ⟨b, others⟩ := others <;>
        obtain ⟨_, alsoSplit, isLeft⟩ := after?_cons_eq_some_iff.mp alsoBegins <;>
        obtain ⟨same, rfl⟩ := List.cons.inj (split.symm.trans alsoSplit)
      · exact ⟨rfl, Option.some.inj (isRest.symm.trans isLeft)⟩
      · exact absurd same.symm notComma
  | cons a as inductionHypothesis =>
      obtain ⟨_, split, isRest⟩ := after?_cons_eq_some_iff.mp begins
      obtain _ | ⟨b, others⟩ := others <;>
        obtain ⟨_, alsoSplit, isLeft⟩ := after?_cons_eq_some_iff.mp alsoBegins <;>
        obtain ⟨same, rfl⟩ := List.cons.inj (split.symm.trans alsoSplit)
      · exact absurd same notComma
      · rw [after?_append] at isRest isLeft
        obtain ⟨middle, isFirst, later⟩ := Option.bind_eq_some_iff.mp isRest
        obtain ⟨_, alsoFirst, alsoLater⟩ := Option.bind_eq_some_iff.mp isLeft
        obtain ⟨rfl, rfl⟩ := determined a List.mem_cons_self isFirst
          (breaks_of_moreTokens closes later) alsoFirst (breaks_of_moreTokens closes alsoLater)
        obtain ⟨rfl, same⟩ := inductionHypothesis
          (fun other member => determined other (List.mem_cons_of_mem _ member)) later alsoLater
        exact ⟨rfl, same⟩

/-- A text begins with the tokens of one sequence of entries only. -/
theorem eq_of_after?_entryTokens
    (opens : ∀ a, ∃ c token tokens, tokensOf a = (c :: token) :: tokens ∧ c ≠ closing)
    {as others : List α} (determined : ∀ a ∈ as, IsDetermined tokensOf a)
    {text rest left : List Char}
    (begins : after? (entryTokens closing (as.map tokensOf)) text = some rest)
    (alsoBegins : after? (entryTokens closing (others.map tokensOf)) text = some left) :
    as = others ∧ rest = left := by
  have notBoth : ∀ {b : α} {bs : List α} {rest left : List Char},
      after? [[closing]] text = some rest →
        after? (entryTokens closing ((b :: bs).map tokensOf)) text ≠ some left := by
    intro b bs rest left isEmpty isNonempty
    obtain ⟨c, token, tokens, isTokens, notClosing⟩ := opens b
    rw [List.map_cons, entryTokens, isTokens] at isNonempty
    obtain ⟨_, split, _⟩ := after?_cons_eq_some_iff.mp isEmpty
    obtain ⟨_, alsoSplit, _⟩ := after?_cons_eq_some_iff.mp isNonempty
    obtain ⟨same, _⟩ := List.cons.inj (split.symm.trans alsoSplit)
    exact notClosing same.symm
  cases as with
  | nil =>
      cases others with
      | nil => exact ⟨rfl, Option.some.inj (begins.symm.trans alsoBegins)⟩
      | cons b others => exact absurd alsoBegins (notBoth begins)
  | cons a as =>
      cases others with
      | nil => exact absurd begins (notBoth alsoBegins)
      | cons b others =>
          rw [List.map_cons, entryTokens, after?_append] at begins alsoBegins
          obtain ⟨middle, isFirst, later⟩ := Option.bind_eq_some_iff.mp begins
          obtain ⟨_, alsoFirst, alsoLater⟩ := Option.bind_eq_some_iff.mp alsoBegins
          obtain ⟨rfl, rfl⟩ := determined a List.mem_cons_self isFirst
            (breaks_of_moreTokens closes later) alsoFirst (breaks_of_moreTokens closes alsoLater)
          obtain ⟨rfl, same⟩ := eq_of_after?_moreTokens closes
            (fun other member => determined other (List.mem_cons_of_mem _ member)) later alsoLater
          exact ⟨rfl, same⟩

end Determined

end WebCompat.Json
