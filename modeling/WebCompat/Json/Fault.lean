import WebCompat.Json.Value
import WebCompat.Text.Span

/-!
What can be wrong with a document, and where: a fault knows the characters that were unread
when it was found, and its line and column follow from them.
-/

namespace WebCompat.Json

/-- What is wrong with a document, in form or in content. -/
inductive Cause where
  | endInValue
  | endInList
  | endInObject
  | endInText
  | expectedValue
  | expectedWord
  | expectedColon
  | expectedCommaOrBracket
  | expectedCommaOrBrace
  | expectedKey
  | trailingComma
  | trailingCharacters
  | invalidNumber
  | numberOutOfRange
  | invalidEscape
  | loneSurrogate
  | unfinishedPair
  | controlCharacter
  | tooDeep
  /-- A value of one kind stands where another was expected. -/
  | wrongKind (found : Value) (expected : String)
  /-- A list that stands for a structure of `size` fields ends after `length` items. -/
  | wrongLength (length : Nat) (name : String) (size : Nat)
  | missingField (name : String)
  | duplicateField (name : String)
  | unknownVariant (found : String) (known : List String)
  /-- A value has none of the forms in which the thing named can be given. -/
  | noMatchingForm (name : String)
  /-- A text is not what it should denote. -/
  | unreadable (reason : String)

namespace Cause

/-- A word between back quotes. -/
def marked (word : String) : String :=
  "\x60" ++ word ++ "\x60"

/-- The choice that a message offers. -/
def choice : List String → String
  | [] => "there are no variants"
  | [one] => "expected " ++ marked one
  | [one, other] => "expected " ++ marked one ++ " or " ++ marked other
  | known => "expected one of " ++ ", ".intercalate (known.map marked)

/-- A number of elements in words. -/
def elements (size : Nat) : String :=
  toString size ++ (if size = 1 then " element" else " elements")

def message : Cause → String
  | .endInValue => "EOF while parsing a value"
  | .endInList => "EOF while parsing a list"
  | .endInObject => "EOF while parsing an object"
  | .endInText => "EOF while parsing a string"
  | .expectedValue => "expected value"
  | .expectedWord => "expected ident"
  | .expectedColon => "expected \x60:\x60"
  | .expectedCommaOrBracket => "expected \x60,\x60 or \x60]\x60"
  | .expectedCommaOrBrace => "expected \x60,\x60 or \x60\x7d\x60"
  | .expectedKey => "key must be a string"
  | .trailingComma => "trailing comma"
  | .trailingCharacters => "trailing characters"
  | .invalidNumber => "invalid number"
  | .numberOutOfRange => "number out of range"
  | .invalidEscape => "invalid escape"
  | .loneSurrogate => "lone leading surrogate in hex escape"
  | .unfinishedPair => "unexpected end of hex escape"
  | .controlCharacter => "control character (\\u0000-\\u001F) found while parsing a string"
  | .tooDeep => "recursion limit exceeded"
  | .wrongKind found expected =>
      "invalid type: " ++ found.described ++ ", expected " ++ expected
  | .wrongLength length name size =>
      "invalid length " ++ toString length ++ ", expected struct " ++ name ++ " with "
        ++ elements size
  | .missingField name => "missing field " ++ marked name
  | .duplicateField name => "duplicate field " ++ marked name
  | .unknownVariant found known => "unknown variant " ++ marked found ++ ", " ++ choice known
  | .noMatchingForm name => "data did not match any variant of untagged enum " ++ name
  | .unreadable reason => reason

end Cause

/-- A fault met while reading: its cause, the characters not yet read, and how many bytes of
those were looked at. -/
structure Fault where
  cause : Cause
  rest : List Char
  ahead : Nat

namespace Fault

/-- A fault in what was just read. -/
def before (cause : Cause) (rest : List Char) : Fault :=
  ⟨cause, rest, 0⟩

/-- A fault in the character that comes next. -/
def next (cause : Cause) (rest : List Char) : Fault :=
  ⟨cause, rest, 1⟩

end Fault

/-- Why a document cannot be read, with the place where that shows. -/
structure Error where
  cause : Cause
  line : Nat
  column : Nat

namespace Error

/-- Line and column after the given number of bytes of a text: lines count from one, columns
count the bytes since the last line break. -/
def position : (bytes : Nat) → List Char → (line column : Nat) → Nat × Nat
  | 0, _, line, column => (line, column)
  | _, [], line, column => (line, column)
  | bytes + 1, c :: text, line, column =>
      if c = '\n' then position bytes text (line + 1) 0
      else
        let width := min (bytes + 1) c.utf8Size
        position (bytes + 1 - width) text line (column + width)
termination_by _ text => text.length

/-- The place of a fault in the document that was read. -/
def ofFault (document : List Char) (fault : Fault) : Error :=
  let bytes := Text.byteLength document - Text.byteLength fault.rest + fault.ahead
  let place := position bytes document 1 0
  ⟨fault.cause, place.1, place.2⟩

def message (error : Error) : String :=
  error.cause.message ++ " at line " ++ toString error.line ++ " column "
    ++ toString error.column

end Error

end WebCompat.Json
