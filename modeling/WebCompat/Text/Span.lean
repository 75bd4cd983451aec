import WebCompat.Text.Blank

/-!
Words of a line with their places, and the word under a cursor. What makes up a word is a
parameter; columns count characters and places count bytes.
-/

namespace WebCompat.Text

/-- The number of bytes of a text in UTF-8. -/
def byteLength : List Char → Nat
  | [] => 0
  | c :: s => c.utf8Size + byteLength s

/-- A word and the byte offsets of its first byte and of the byte after its last. -/
structure Span where
  word : String
  start : Nat
  stop : Nat
deriving DecidableEq, Repr

/-- Whether an offset lies inside a span or at one of its ends. -/
def Span.touches (span : Span) (offset : Nat) : Bool :=
  span.start ≤ offset && offset ≤ span.stop

/-- The longest runs of characters of a class in a text that starts at the given offset. -/
def spansFrom (inWord : Char → Bool) (offset : Nat) : List Char → List Span
  | [] => []
  | c :: s =>
      if inWord c then
        let word := c :: s.takeWhile inWord
        let stop := offset + byteLength word
        ⟨String.ofList word, offset, stop⟩ :: spansFrom inWord stop (s.dropWhile inWord)
      else spansFrom inWord (offset + c.utf8Size) s
termination_by s => s.length
decreasing_by
  · have := length_dropWhile_le inWord s
    simp only [List.length_cons]
    omega
  · simp

/-- The longest runs of characters of a class in a line. -/
def spans (inWord : Char → Bool) (line : String) : List Span :=
  spansFrom inWord 0 line.toList

/-- The word that touches the position before the character of the given column. The
position after the last character counts too, one beyond does not. -/
def spanAt? (inWord : Char → Bool) (line : String) (column : Nat) : Option Span :=
  let offset := byteLength (line.toList.take column)
  if column ≤ line.length then (spans inWord line).find? fun span => span.touches offset
  else none

end WebCompat.Text
