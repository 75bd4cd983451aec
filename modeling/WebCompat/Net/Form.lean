import WebCompat.Net.Percent

/-!
The encoding of form fields: a blank is written as a plus sign, and every byte that is no
ASCII letter, digit, asterisk, hyphen, point or underscore is percent-encoded.
-/

namespace WebCompat.Net.Form

/-- Characters that stand for themselves. -/
def isPlain (c : Char) : Bool :=
  c.isAlphanum || c == '*' || c == '-' || c == '.' || c == '_'

/-- One character of a field. -/
def encodeChar (c : Char) : List Char :=
  if c = ' ' then ['+'] else if isPlain c then [c] else percentChar c

/-- The characters of a field as they are sent. -/
def encode (text : List Char) : List Char :=
  text.flatMap encodeChar

/-- The characters that a field as it was sent stands for. -/
def decode (text : List Char) : String :=
  Text.ofBytesLossy
    (percentDecode (Text.bytes (text.map fun c => if c = '+' then ' ' else c)))

/-- A query with a field added at its end, after an ampersand if there was anything. -/
def append (query : Option (List Char)) (name value : List Char) : List Char :=
  let field := encode name ++ '=' :: encode value
  match query with
  | none | some [] => field
  | some existing => existing ++ '&' :: field

end WebCompat.Net.Form
