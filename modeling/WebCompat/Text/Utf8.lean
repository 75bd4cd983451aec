/-!
Text as bytes in UTF-8. Decoding yields a character for each well-formed sequence and marks
each longest run of bytes that begins one but does not finish it.
-/

namespace WebCompat.Text

def bytes (text : List Char) : List UInt8 :=
  text.flatMap String.utf8EncodeChar

def stringBytes (text : String) : List UInt8 :=
  bytes text.toList

/-- How a sequence of bytes goes on after its first: the number of bytes to come, bounds for
the next of them, and the bits read so far. -/
structure Continuation where
  count : Nat
  low : UInt8
  high : UInt8
  bits : Nat

/-- How a sequence goes on after its first byte, if that can begin one. -/
def continuation? (first : UInt8) : Option Continuation :=
  let n := first.toNat
  if n < 0x80 then some ⟨0, 0x80, 0xBF, n⟩
  else if 0xC2 ≤ n ∧ n ≤ 0xDF then some ⟨1, 0x80, 0xBF, n - 0xC0⟩
  else if n = 0xE0 then some ⟨2, 0xA0, 0xBF, 0⟩
  else if n = 0xED then some ⟨2, 0x80, 0x9F, 0xD⟩
  else if 0xE1 ≤ n ∧ n ≤ 0xEF then some ⟨2, 0x80, 0xBF, n - 0xE0⟩
  else if n = 0xF0 then some ⟨3, 0x90, 0xBF, 0⟩
  else if n = 0xF4 then some ⟨3, 0x80, 0x8F, 4⟩
  else if 0xF1 ≤ n ∧ n ≤ 0xF3 then some ⟨3, 0x80, 0xBF, n - 0xF0⟩
  else none

/-- Takes the bytes that are to come; the first has bounds of its own. None marks a sequence
that does not finish. -/
def takeContinuation (bits : Nat) (low high : UInt8) :
    (count : Nat) → List UInt8 → Option Char × List UInt8
  | 0, rest => (some (Char.ofNat bits), rest)
  | _ + 1, [] => (none, [])
  | count + 1, b :: rest =>
      if low ≤ b ∧ b ≤ high then
        takeContinuation (bits * 64 + b.toNat % 64) 0x80 0xBF count rest
      else (none, b :: rest)

private theorem takeContinuation_length_le (bits : Nat) (low high : UInt8) (count : Nat)
    (rest : List UInt8) :
    (takeContinuation bits low high count rest).2.length ≤ rest.length := by
  induction count generalizing bits low high rest with
  | zero => simp [takeContinuation]
  | succ count inductionHypothesis =>
    cases rest with
    | nil => simp [takeContinuation]
    | cons b rest =>
      unfold takeContinuation
      split
      · exact Nat.le_succ_of_le (inductionHypothesis _ _ _ _)
      · simp

/-- Takes one character, or one sequence that is none, off the front of `first :: rest`. -/
def takeCharacter (first : UInt8) (rest : List UInt8) : Option Char × List UInt8 :=
  match continuation? first with
  | some next => takeContinuation next.bits next.low next.high next.count rest
  | none => (none, rest)

private theorem takeCharacter_length_le (first : UInt8) (rest : List UInt8) :
    (takeCharacter first rest).2.length ≤ rest.length := by
  unfold takeCharacter
  split
  · exact takeContinuation_length_le _ _ _ _ _
  · exact Nat.le_refl _

/-- The characters of a sequence of bytes, with a mark for each sequence that is none. -/
def decoded : List UInt8 → List (Option Char)
  | [] => []
  | first :: rest =>
      (takeCharacter first rest).1 :: decoded (takeCharacter first rest).2
termination_by bytes => bytes.length
decreasing_by
  have := takeCharacter_length_le first rest
  simp only [List.length_cons]
  omega

/-- The text of a sequence of bytes, if all of it is well formed. -/
def ofBytes? (bytes : List UInt8) : Option String :=
  ((decoded bytes).mapM id).map String.ofList

/-- The text of a sequence of bytes, with the replacement character for what is not well
formed. -/
def ofBytesLossy (bytes : List UInt8) : String :=
  String.ofList ((decoded bytes).map fun character => character.getD '\uFFFD')

end WebCompat.Text
