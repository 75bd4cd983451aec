import WebCompat.Json.Reader
import WebCompat.Text.Digit
import WebCompat.Text.Surrogate

/-!
Quoted text in a document, from the character after its opening quote: reading what it
says, and passing over it. Text that is read has to denote characters, so its surrogates
have to come in pairs; text that is passed over only has to have the form.
-/

namespace WebCompat.Json

/-- The number that four digits in base sixteen denote. -/
def hexUnit? (a b c d : Char) : Option Nat :=
  Text.numberInBase? 16 0 [a, b, c, d]

/-- The fault where four digits were expected: the next four bytes are to blame, unless the
text ends before. -/
def hexFault (text : List Char) : Fault :=
  if Text.byteLength (text.take 4) < 4 then .before .endInText [] else ⟨.invalidEscape, text, 4⟩

/-- Takes four digits in base sixteen. -/
def hexUnit : Reader Nat := fun text =>
  match text with
  | a :: b :: c :: d :: rest =>
      match hexUnit? a b c d with
      | some unit =>
          .ok ⟨unit, rest, by
            simp only [List.length_cons]
            omega⟩
      | none => .error (hexFault (a :: b :: c :: d :: rest))
  | short => .error (hexFault short)

/-- The character that a letter after a backslash stands for. -/
def namedEscape? (c : Char) : Option Char :=
  if c = '"' || c = '\\' || c = '/' then some c
  else if c = 'b' then some '\x08'
  else if c = 'f' then some '\x0c'
  else if c = 'n' then some '\n'
  else if c = 'r' then some '\r'
  else if c = 't' then some '\t'
  else none

/-- Takes the second unit of a pair, with the backslash and the letter before it. -/
def trailingUnit : Reader Nat := fun text =>
  match text with
  | [] => .error (.before .endInText [])
  | '\\' :: [] => .error (.before .endInText [])
  | '\\' :: 'u' :: rest =>
      match hexUnit rest with
      | .error fault => .error fault
      | .ok unit =>
          if Text.isTrailing unit.value then
            .ok (unit.widen (by
              simp only [List.length_cons]
              omega))
          else .error (.before .loneSurrogate unit.rest)
  | '\\' :: other => .error (.next .unfinishedPair other)
  | other => .error (.next .unfinishedPair other)

/-- Takes the character that an escape by number denotes, from after its letter. -/
def numberedEscape : Reader Char := fun text =>
  match hexUnit text with
  | .error fault => .error fault
  | .ok unit =>
      if Text.isTrailing unit.value then .error (.before .loneSurrogate unit.rest)
      else if Text.isLeading unit.value then
        match trailingUnit unit.rest with
        | .error fault => .error fault
        | .ok trailing =>
            .ok ((trailing.map (Text.pairedChar unit.value)).widen (Nat.le_of_lt unit.shorter))
      else .ok (unit.map Char.ofNat)

/-- Takes the character that an escape denotes, from after its backslash. -/
def escape : Reader Char := fun text =>
  match text with
  | [] => .error (.before .endInText [])
  | c :: rest =>
      if c = 'u' then
        match numberedEscape rest with
        | .error fault => .error fault
        | .ok taken => .ok (taken.widen Text.length_le_cons)
      else
        match namedEscape? c with
        | some named => .ok ⟨named, rest, Text.length_lt_cons⟩
        | none => .error (.next .invalidEscape (c :: rest))

/-- Takes an escape without asking which character it denotes. -/
def escapeForm : Reader Unit := fun text =>
  match text with
  | [] => .error (.before .endInText [])
  | c :: rest =>
      if c = 'u' then
        match hexUnit rest with
        | .error fault => .error fault
        | .ok unit => .ok ((unit.map fun _ => ()).widen Text.length_le_cons)
      else if (namedEscape? c).isSome then .ok ⟨(), rest, Text.length_lt_cons⟩
      else .error (.next .invalidEscape (c :: rest))

/-- Whether a character may not stand in quoted text. -/
def isControl (c : Char) : Bool :=
  c.toNat < 0x20

/-- Takes the characters up to the closing quote, and the quote. -/
def quotedChars : Reader (List Char) := fun text =>
  match text with
  | [] => .error (.before .endInText [])
  | c :: rest =>
      if c = '"' then .ok ⟨[], rest, Text.length_lt_cons⟩
      else if c = '\\' then
        match escape rest with
        | .error fault => .error fault
        | .ok first =>
            match quotedChars first.rest with
            | .error fault => .error fault
            | .ok more =>
                .ok ((more.map (first.value :: ·)).widen first.rest_length_le_cons)
      else if isControl c then .error (.next .controlCharacter (c :: rest))
      else
        match quotedChars rest with
        | .error fault => .error fault
        | .ok more => .ok ((more.map (c :: ·)).widen Text.length_le_cons)
termination_by text => text.length
decreasing_by
  · exact first.rest_length_lt_cons
  · exact Text.length_lt_cons

/-- Takes a quoted text, from after its opening quote. -/
def quotedText : Reader String :=
  Reader.map String.ofList quotedChars

/-- Passes over a quoted text, from after its opening quote. A control character shows
before it is passed. -/
def quotedForm : Reader Unit := fun text =>
  match text with
  | [] => .error (.before .endInText [])
  | c :: rest =>
      if c = '"' then .ok ⟨(), rest, Text.length_lt_cons⟩
      else if c = '\\' then
        match escapeForm rest with
        | .error fault => .error fault
        | .ok first =>
            match quotedForm first.rest with
            | .error fault => .error fault
            | .ok more =>
                .ok (more.widen first.rest_length_le_cons)
      else if isControl c then .error (.before .controlCharacter (c :: rest))
      else
        match quotedForm rest with
        | .error fault => .error fault
        | .ok more => .ok (more.widen Text.length_le_cons)
termination_by text => text.length
decreasing_by
  · exact first.rest_length_lt_cons
  · exact Text.length_lt_cons

end WebCompat.Json
