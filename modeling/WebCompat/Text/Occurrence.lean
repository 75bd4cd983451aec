import WebCompat.Text.CaseFold
import WebCompat.Text.Taken
import WebCompat.Text.Word

/-!
Whole-word occurrences of a text within another, whatever their case. An occurrence
begins and ends where words begin or end, and occurrences do not overlap.
-/

namespace WebCompat.Text

/-- Takes a word off the front, up to case, and yields its last character as it stands in
the text. -/
def foldedWord? (last : Char) :
    (word : List Char) → (text : List Char) → Option (Char × List Char)
  | [], text => some (last, text)
  | _ :: _, [] => none
  | w :: word, c :: text =>
      if foldCase w = foldCase c then foldedWord? c word text else none

private theorem foldedWord?_length {last end_ : Char} {word text rest : List Char}
    (taken : foldedWord? last word text = some (end_, rest)) :
    rest.length + word.length = text.length := by
  induction word generalizing last text with
  | nil => simp_all [foldedWord?]
  | cons w word inductionHypothesis =>
      cases text with
      | nil => simp [foldedWord?] at taken
      | cons c text =>
          simp only [foldedWord?] at taken
          split at taken
          · have := inductionHypothesis taken
            simp only [List.length_cons]
            omega
          · simp at taken

/-- Takes one occurrence of the word `first :: more` off the front of a text that comes
after the character `before`, and yields the last character of the occurrence. -/
def occurrence? (first : Char) (more : List Char) (before : Option Char) (text : List Char) :
    Option (Taken Char text) :=
  if isBoundary before text.head? then
    match taken : foldedWord? first (first :: more) text with
    | none => none
    | some (last, rest) =>
        if isBoundary (some last) rest.head? then
          some ⟨last, rest, by
            have := foldedWord?_length taken
            simp only [List.length_cons] at this
            omega⟩
        else none
  else none

/-- The number of leftmost occurrences of the word `first :: more` in a text that comes
after the character `before`. -/
def countFrom (first : Char) (more : List Char) (before : Option Char) : List Char → Nat
  | [] => 0
  | c :: text =>
      match occurrence? first more before (c :: text) with
      | some found => 1 + countFrom first more (some found.value) found.rest
      | none => countFrom first more (some c) text
termination_by text => text.length
decreasing_by
  · exact found.shorter
  · simp

/-- How often a word occurs in a text as a whole word, whatever its case. The empty word
does not occur. -/
def occurrences (text word : String) : Nat :=
  match word.toList with
  | [] => 0
  | first :: more => countFrom first more none text.toList

end WebCompat.Text
