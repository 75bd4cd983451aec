import WebCompat.Text.Blank

/-!
Reading from the front of a text. A step yields a value and what is left, together with
the fact that it used at least one character; loops over steps end by that fact.
-/

namespace WebCompat.Text

universe u

/-- A value read off the front of `text`, and the characters left after it. -/
structure Taken (α : Type u) (text : List Char) where
  value : α
  rest : List Char
  shorter : rest.length < text.length

namespace Taken

variable {α β : Type u} {text longer : List Char}

/-- The same step seen from a text that has more in front. -/
def widen (taken : Taken α text) (le : text.length ≤ longer.length) : Taken α longer :=
  ⟨taken.value, taken.rest, Nat.lt_of_lt_of_le taken.shorter le⟩

def map (f : α → β) (taken : Taken α text) : Taken β text :=
  ⟨f taken.value, taken.rest, taken.shorter⟩

end Taken

theorem length_lt_cons {c : Char} {text : List Char} : text.length < (c :: text).length :=
  Nat.lt_succ_self text.length

theorem length_le_cons {c : Char} {text : List Char} : text.length ≤ (c :: text).length :=
  Nat.le_succ text.length

theorem length_dropWhile_lt_cons {p : Char → Bool} {c : Char} {text : List Char} :
    (text.dropWhile p).length < (c :: text).length :=
  Nat.lt_succ_of_le (length_dropWhile_le p text)

/-- What a step leaves is shorter than its text with one more character in front. -/
theorem Taken.rest_length_lt_cons {α : Type u} {c : Char} {text : List Char}
    (taken : Taken α text) : taken.rest.length < (c :: text).length :=
  Nat.lt_succ_of_lt taken.shorter

/-- The same bound for a comparison that need not be strict. -/
theorem Taken.rest_length_le_cons {α : Type u} {c : Char} {text : List Char}
    (taken : Taken α text) : taken.rest.length ≤ (c :: text).length :=
  Nat.le_of_lt taken.rest_length_lt_cons

/-- Takes a given non-empty word off the front. -/
def word? (first : Char) (more : List Char) : (text : List Char) → Option (Taken Unit text)
  | [] => none
  | c :: text =>
      if c = first then
        match more with
        | [] => some ⟨(), text, length_lt_cons⟩
        | next :: others =>
            (word? next others text).map fun taken => taken.widen length_le_cons
      else none

/-- Takes one or more characters of white space off the front. -/
def blanks? : (text : List Char) → Option (Taken Unit text)
  | [] => none
  | c :: text =>
      if isBlank c then
        some ⟨(), skipBlank text, by
          have := skipBlank_length_le text
          simp only [List.length_cons]
          omega⟩
      else none

/-- Takes off the front a character of one class and the longest run of another class
after it. -/
def run? (starts continues : Char → Bool) : (text : List Char) → Option (Taken (List Char) text)
  | [] => none
  | c :: text =>
      if starts c then
        some ⟨c :: text.takeWhile continues, text.dropWhile continues, by
          have := length_dropWhile_le continues text
          simp only [List.length_cons]
          omega⟩
      else none

/-- Takes one given character off the front. -/
def char? (expected : Char) (text : List Char) : Option (Taken Unit text) :=
  word? expected [] text

/-- Takes one given character off the front, after any white space. -/
def charAfterBlank? (expected : Char) (text : List Char) : Option (Taken Unit text) :=
  (char? expected (skipBlank text)).map fun taken => taken.widen (skipBlank_length_le text)

/-- The values of the leftmost matches of `shape` that do not overlap: at each position the
shape is tried, a match is reported and skipped as a whole, and otherwise the search moves
on by one character. -/
def scan {α : Type u} (shape : (text : List Char) → Option (Taken α text)) :
    List Char → List α
  | [] => []
  | c :: text =>
      match shape (c :: text) with
      | some found => found.value :: scan shape found.rest
      | none => scan shape text
termination_by text => text.length
decreasing_by
  · exact found.shorter
  · simp

end WebCompat.Text
