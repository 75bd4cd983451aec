import WebCompat.Json.Fault
import WebCompat.Text.Taken

/-!
Readers: what takes a value off the front of a text or says what is wrong there. A reader
that succeeds has used at least one character, so that loops over readers end.
-/

namespace WebCompat.Json

open WebCompat.Text (Taken)

/-- Something that takes a value off the front of a text. -/
abbrev Reader (α : Type) :=
  (text : List Char) → Except Fault (Taken α text)

/-- White space between the parts of a document: blank, tab, line feed, carriage return. -/
def isSpace (c : Char) : Bool :=
  c = ' ' || c = '\t' || c = '\n' || c = '\r'

/-- What is left of a text after the white space at its front. -/
def skipSpace (text : List Char) : List Char :=
  text.dropWhile isSpace

theorem skipSpace_length_le (text : List Char) : (skipSpace text).length ≤ text.length :=
  Text.length_dropWhile_le isSpace text

namespace Reader

variable {α β : Type}

def map (f : α → β) (reader : Reader α) : Reader β := fun text =>
  (reader text).map fun taken => taken.map f

def bind (first : Reader α) (next : α → Reader β) : Reader β := fun text =>
  match first text with
  | .error fault => .error fault
  | .ok taken =>
      match next taken.value taken.rest with
      | .error fault => .error fault
      | .ok followed => .ok (followed.widen (Nat.le_of_lt taken.shorter))

/-- A reader that first passes over white space. -/
def afterSpace (reader : Reader α) : Reader α := fun text =>
  match reader (skipSpace text) with
  | .error fault => .error fault
  | .ok taken => .ok (taken.widen (skipSpace_length_le text))

/-- The value of a reader replaced by a judgement on it; what it objects to is a fault in
what was just read. -/
def judge (reader : Reader α) (judgement : α → Except Cause β) : Reader β := fun text =>
  match reader text with
  | .error fault => .error fault
  | .ok taken =>
      match judgement taken.value with
      | .error cause => .error (.before cause taken.rest)
      | .ok value => .ok ⟨value, taken.rest, taken.shorter⟩

end Reader

/-- Takes a word off the front, letter by letter. -/
def word (first : Char) : (more : List Char) → Reader Unit
  | _, [] => .error (.before .endInValue [])
  | [], c :: text =>
      if c = first then .ok ⟨(), text, Text.length_lt_cons⟩
      else .error (.next .expectedWord (c :: text))
  | next :: others, c :: text =>
      if c = first then
        match word next others text with
        | .error fault => .error fault
        | .ok taken => .ok (taken.widen Text.length_le_cons)
      else .error (.next .expectedWord (c :: text))

/-- Takes a mark off the front, after white space. -/
def mark (expected : Char) (atEnd otherwise : Cause) : Reader Unit :=
  Reader.afterSpace fun text =>
    match text with
    | [] => .error (.next atEnd [])
    | c :: rest =>
        if c = expected then .ok ⟨(), rest, Text.length_lt_cons⟩
        else .error (.next otherwise (c :: rest))

/-- Takes the colon between a name and its value. -/
def colon : Reader Unit :=
  mark ':' .endInObject .expectedColon

end WebCompat.Json
