import Mathlib.Data.List.DropRight
import WebCompat.Json.Enclosed

/-!
Readers as partial functions: what a reader takes off the front of a text and what it leaves, or
nothing where it finds a fault. Which fault that is does not matter for what a document means.

Owns: the outcome of the combinators of readers, one equation for each.
-/

namespace WebCompat.Json

open WebCompat.Text (Taken)

variable {α β σ : Type}

namespace Reader

/-- What a reader takes off a text, and what it leaves. -/
def take? (reader : Reader α) (text : List Char) : Option (α × List Char) :=
  match reader text with
  | .error _ => none
  | .ok taken => some (taken.value, taken.rest)

theorem take?_eq_some_iff {reader : Reader α} {text rest : List Char} {value : α} :
    take? reader text = some (value, rest) ↔
      ∃ shorter, reader text = .ok ⟨value, rest, shorter⟩ := by
  unfold take?
  cases reader text with
  | error fault => simp
  | ok taken =>
      obtain ⟨found, left, shorter⟩ := taken
      simp only [Option.some.injEq, Prod.mk.injEq, Except.ok.injEq, Taken.mk.injEq]
      constructor
      · rintro ⟨rfl, rfl⟩
        exact ⟨shorter, rfl, rfl⟩
      · rintro ⟨_, sameValue, sameRest⟩
        exact ⟨sameValue, sameRest⟩

theorem take?_congr {reader other : Reader α} {text : List Char}
    (same : reader text = other text) : take? reader text = take? other text := by
  unfold take?
  rw [same]

/-- A reader that goes on with another one behind the front of its text. -/
theorem take?_eq_of_widened {reader other : Reader α} {text behind : List Char}
    (le : behind.length ≤ text.length)
    (same : reader text =
      match other behind with
      | .error fault => .error fault
      | .ok taken => .ok (taken.widen le)) : take? reader text = take? other behind := by
  unfold take?
  rw [same]
  cases other behind <;> rfl

theorem take?_eq_none {reader : Reader α} {text : List Char}
    (fails : ∃ fault, reader text = .error fault) : take? reader text = none := by
  obtain ⟨fault, isFault⟩ := fails
  unfold take?
  rw [isFault]

theorem length_lt_of_take? {reader : Reader α} {text rest : List Char} {value : α}
    (taken : take? reader text = some (value, rest)) : rest.length < text.length :=
  (take?_eq_some_iff.mp taken).1

@[simp] theorem take?_map (f : α → β) (reader : Reader α) (text : List Char) :
    take? (Reader.map f reader) text =
      (take? reader text).map fun taken => (f taken.1, taken.2) := by
  unfold take? Reader.map
  cases reader text <;> rfl

@[simp] theorem take?_bind (first : Reader α) (next : α → Reader β) (text : List Char) :
    take? (Reader.bind first next) text =
      (take? first text).bind fun taken => take? (next taken.1) taken.2 := by
  unfold take? Reader.bind
  cases first text with
  | error => rfl
  | ok taken =>
      dsimp only [Option.bind_some]
      cases next taken.value taken.rest <;> rfl

@[simp] theorem take?_afterSpace (reader : Reader α) (text : List Char) :
    take? (Reader.afterSpace reader) text = take? reader (skipSpace text) := by
  unfold take? Reader.afterSpace
  cases reader (skipSpace text) <;> rfl

@[simp] theorem take?_judge (reader : Reader α) (judgement : α → Except Cause β)
    (text : List Char) :
    take? (Reader.judge reader judgement) text =
      (take? reader text).bind fun taken =>
        (judgement taken.1).toOption.map fun value => (value, taken.2) := by
  unfold take? Reader.judge
  cases reader text with
  | error => rfl
  | ok taken =>
      dsimp only [Option.bind_some]
      cases judgement taken.value <;> rfl

end Reader

open Reader (take?)

/-! ## White space, words and marks -/

@[simp] theorem skipSpace_skipSpace (text : List Char) :
    skipSpace (skipSpace text) = skipSpace text :=
  List.dropWhile_idempotent isSpace text

theorem skipSpace_of_head {c : Char} {text : List Char} (notSpace : isSpace c = false) :
    skipSpace (c :: text) = c :: text := by
  simp [skipSpace, notSpace]

/-- What follows white space does not depend on what stands behind it. -/
theorem skipSpace_append {text : List Char} (more : List Char) (notSpace : skipSpace text ≠ []) :
    skipSpace (text ++ more) = skipSpace text ++ more := by
  unfold skipSpace at notSpace ⊢
  rw [List.dropWhile_append, if_neg]
  simpa using notSpace

theorem take?_word {first : Char} {more text rest : List Char} :
    take? (word first more) text = some ((), rest) ↔ text = first :: more ++ rest := by
  induction more generalizing first text with
  | nil =>
      cases text with
      | nil => simp [take?, word]
      | cons c text =>
          by_cases isFirst : c = first <;> simp [take?, word, isFirst]
  | cons next others inductionHypothesis =>
      cases text with
      | nil => simp [take?, word]
      | cons c text =>
          have later := @inductionHypothesis next text
          unfold take? at later ⊢
          unfold word
          by_cases isFirst : c = first
          · rw [if_pos isFirst]
            simp only [isFirst, List.cons_append, List.cons.injEq, true_and] at later ⊢
            rw [← later]
            cases word next others text <;> rfl
          · simp [isFirst]

theorem take?_mark (expected : Char) (atEnd otherwise : Cause) (text : List Char) :
    take? (mark expected atEnd otherwise) text =
      match skipSpace text with
      | [] => none
      | c :: rest => if c = expected then some ((), rest) else none := by
  rw [mark, Reader.take?_afterSpace]
  unfold take?
  cases skipSpace text with
  | nil => rfl
  | cons c rest => by_cases isExpected : c = expected <;> simp [isExpected]

/-- A mark may have white space in front. -/
theorem take?_mark_eq_some_iff {expected : Char} {atEnd otherwise : Cause}
    {text rest : List Char} :
    take? (mark expected atEnd otherwise) text = some ((), rest) ↔
      skipSpace text = expected :: rest := by
  rw [take?_mark]
  cases skipSpace text with
  | nil => simp
  | cons c others =>
      by_cases isExpected : c = expected <;> simp [isExpected]

/-! ## Entries between marks -/

section Entries

variable (enclosure : Enclosure) (entry : σ → Reader σ)

theorem take?_moreEntries (state : σ) (text : List Char) :
    take? (moreEntries enclosure entry state) text =
      match skipSpace text with
      | [] => none
      | c :: rest =>
          if c = enclosure.closing then some (state, rest)
          else if c = ',' then
            match skipSpace rest with
            | [] => none
            | d :: others =>
                if d = enclosure.closing then none
                else
                  (take? (entry state) (d :: others)).bind fun taken =>
                    take? (moreEntries enclosure entry taken.1) taken.2
          else none := by
  unfold take?
  rw [moreEntries]
  generalize skipSpace_length_le text = le
  revert le
  cases skipSpace text with
  | nil => intro le; rfl
  | cons c rest =>
      intro le
      dsimp only
      by_cases isClosing : c = enclosure.closing
      · rw [if_pos isClosing, if_pos isClosing]
      · rw [if_neg isClosing, if_neg isClosing]
        by_cases isComma : c = ','
        · rw [if_pos isComma, if_pos isComma]
          generalize skipSpace_length_le rest = leOthers
          revert leOthers
          cases skipSpace rest with
          | nil => intro leOthers; rfl
          | cons d others =>
              intro leOthers
              dsimp only
              by_cases closes : d = enclosure.closing
              · rw [if_pos closes, if_pos closes]
              · rw [if_neg closes, if_neg closes]
                cases entry state (d :: others) with
                | error fault => rfl
                | ok taken =>
                    dsimp only [Option.bind_some]
                    cases moreEntries enclosure entry taken.value taken.rest <;> rfl
        · rw [if_neg isComma, if_neg isComma]

theorem take?_entries (state : σ) (text : List Char) :
    take? (entries enclosure entry state) text =
      match skipSpace text with
      | [] => none
      | c :: rest =>
          if c = enclosure.closing then some (state, rest)
          else
            (take? (entry state) (c :: rest)).bind fun taken =>
              take? (moreEntries enclosure entry taken.1) taken.2 := by
  unfold take?
  rw [entries]
  generalize skipSpace_length_le text = le
  revert le
  cases skipSpace text with
  | nil => intro le; rfl
  | cons c rest =>
      intro le
      dsimp only
      by_cases isClosing : c = enclosure.closing
      · rw [if_pos isClosing, if_pos isClosing]
      · rw [if_neg isClosing, if_neg isClosing]
        cases entry state (c :: rest) with
        | error fault => rfl
        | ok taken =>
            dsimp only [Option.bind_some]
            cases moreEntries enclosure entry taken.value taken.rest <;> rfl

end Entries

end WebCompat.Json
