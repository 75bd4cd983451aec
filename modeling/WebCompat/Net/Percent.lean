import WebCompat.Text.Digit
import WebCompat.Text.Utf8

/-!
Percent-encoding: bytes written as a percent sign and two digits in base sixteen.
-/

namespace WebCompat.Net

/-- A digit in base sixteen, in upper case. -/
def hexDigit (n : Nat) : Char :=
  Char.ofNat (if n < 10 then 0x30 + n else 0x37 + n)

/-- A byte as a percent sign and two digits. -/
def percentByte (b : UInt8) : List Char :=
  ['%', hexDigit (b.toNat / 16), hexDigit (b.toNat % 16)]

/-- A character as the percent-encoding of its bytes. -/
def percentChar (c : Char) : List Char :=
  (String.utf8EncodeChar c).flatMap percentByte

/-- A text in which the ASCII characters of a class, and all others that are not ASCII, are
percent-encoded. -/
def percentEncode (isReserved : Char → Bool) (text : List Char) : List Char :=
  text.flatMap fun c => if 0x80 ≤ c.toNat || isReserved c then percentChar c else [c]

/-- The byte that two digits denote. -/
def hexByte? (high low : UInt8) : Option UInt8 :=
  (Text.numberInBase? 16 0 [Char.ofNat high.toNat, Char.ofNat low.toNat]).map UInt8.ofNat

/-- The bytes of a percent-encoded sequence of bytes. A percent sign without two digits
stands for itself. -/
def percentDecode : List UInt8 → List UInt8
  | [] => []
  | [b] => [b]
  | [b, c] => [b, c]
  | b :: high :: low :: rest =>
      if b = 0x25 then
        match hexByte? high low with
        | some decoded => decoded :: percentDecode rest
        | none => b :: percentDecode (high :: low :: rest)
      else b :: percentDecode (high :: low :: rest)
termination_by bytes => bytes.length

/-- Characters that are encoded everywhere: those without a glyph. -/
def isControl (c : Char) : Bool :=
  c.toNat < 0x20 || c.toNat == 0x7F

def isReservedInFragment (c : Char) : Bool :=
  isControl c || c == ' ' || c == '"' || c == '<' || c == '>' || c == '\x60'

def isReservedInPath (c : Char) : Bool :=
  isReservedInFragment c || c == '#' || c == '?' || c == '\x7b' || c == '\x7d'

def isReservedInCredentials (c : Char) : Bool :=
  isReservedInPath c || c == '/' || c == ':' || c == ';' || c == '=' || c == '@' || c == '['
    || c == '\\' || c == ']' || c == '^' || c == '|'

/-- Characters that are encoded in a query; an apostrophe only for some schemes. -/
def isReservedInQuery (withApostrophe : Bool) (c : Char) : Bool :=
  isControl c || c == ' ' || c == '"' || c == '#' || c == '<' || c == '>'
    || (withApostrophe && c == '\x27')

end WebCompat.Net
