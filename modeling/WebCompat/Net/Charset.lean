import WebCompat.Net.ContentType
import WebCompat.Text.Blank
import WebCompat.Text.Surrogate
import WebCompat.Text.Utf8

/-!
Text in the encodings that services write: UTF-8, the western European single-byte
encoding, and UTF-16 in either order of bytes. A byte order mark at the front decides the
encoding and is dropped. Other encodings are left to other readers of bodies: here their labels
are unknown, but for those of encodings that are not read at all.
-/

namespace WebCompat.Net

/-- An encoding of text. -/
inductive Charset where
  | utf8
  | western
  | utf16 (isBigEndian : Bool)
  /-- An encoding that could hide what a text says, and of which nothing is read. -/
  | replaced
deriving DecidableEq, Repr

namespace Charset

/-- The characters of the western European encoding from 0x80 to 0x9F. -/
def westernSpecials : List Nat :=
  [0x20AC, 0x81, 0x201A, 0x192, 0x201E, 0x2026, 0x2020, 0x2021,
   0x2C6, 0x2030, 0x160, 0x2039, 0x152, 0x8D, 0x17D, 0x8F,
   0x90, 0x2018, 0x2019, 0x201C, 0x201D, 0x2022, 0x2013, 0x2014,
   0x2DC, 0x2122, 0x161, 0x203A, 0x153, 0x9D, 0x17E, 0x178]

/-- A character of the western European encoding. -/
def westernChar (b : UInt8) : Char :=
  if 0x80 ≤ b ∧ b ≤ 0x9F then Char.ofNat ((westernSpecials[b.toNat - 0x80]?).getD 0xFFFD)
  else Char.ofNat b.toNat

/-- The sixteen-bit units of a sequence of bytes; a byte left over is none. -/
def units (isBigEndian : Bool) : List UInt8 → List (Option Nat)
  | [] => []
  | [_] => [none]
  | a :: b :: rest =>
      some (if isBigEndian then a.toNat * 256 + b.toNat else b.toNat * 256 + a.toNat)
        :: units isBigEndian rest

/-- The characters of sixteen-bit units, with the replacement character for a unit that lacks
the other of its pair. -/
def unitChars : List (Option Nat) → List Char
  | [] => []
  | none :: rest => '\uFFFD' :: unitChars rest
  | some a :: some b :: rest =>
      if Text.isLeading a && Text.isTrailing b then
        Text.pairedChar a b :: unitChars rest
      else if Text.isLeading a || Text.isTrailing a then '\uFFFD' :: unitChars (some b :: rest)
      else Char.ofNat a :: unitChars (some b :: rest)
  | some a :: none :: rest =>
      -- A leading unit and a byte left over are one defect.
      if Text.isLeading a then '\uFFFD' :: unitChars rest
      else if Text.isTrailing a then '\uFFFD' :: '\uFFFD' :: unitChars rest
      else Char.ofNat a :: '\uFFFD' :: unitChars rest
  | [some a] => [if Text.isLeading a || Text.isTrailing a then '\uFFFD' else Char.ofNat a]

/-- Labels of the western European encoding. -/
def westernLabels : List String :=
  ["ansi_x3.4-1968", "ascii", "cp1252", "cp819", "csisolatin1", "ibm819", "iso-8859-1",
   "iso-ir-100", "iso8859-1", "iso88591", "iso_8859-1", "iso_8859-1:1987", "l1", "latin1",
   "us-ascii", "windows-1252", "x-cp1252"]

/-- Labels of encodings that are not read. -/
def replacedLabels : List String :=
  ["csiso2022kr", "hz-gb-2312", "iso-2022-cn", "iso-2022-cn-ext", "iso-2022-kr", "replacement"]

/-- The encoding with a given label, in any case and with blanks around it; an unknown label
names UTF-8. -/
def ofLabel (label : String) : Charset :=
  let isSpace : Char → Bool := fun c => ['\t', '\n', '\x0c', '\r', ' '].contains c
  let name := String.ofList ((Text.trimWhile isSpace label.toList).map Char.toLower)
  if westernLabels.contains name then .western
  else if ["utf-16", "utf-16le", "ucs-2", "unicode", "csunicode", "iso-10646-ucs-2",
      "unicodefeff"].contains name then .utf16 false
  else if ["utf-16be", "unicodefffe"].contains name then .utf16 true
  else if replacedLabels.contains name then .replaced
  else .utf8

/-- The encoding that a content type names. -/
def ofContentType (contentType : String) : Charset :=
  match ContentType.parameter? "charset" contentType with
  | some label => ofLabel label
  | none => .utf8

/-- The text of bytes in an encoding, without looking for a byte order mark. -/
def decodePlain (charset : Charset) (bytes : List UInt8) : String :=
  match charset with
  | .utf8 => Text.ofBytesLossy bytes
  | .western => String.ofList (bytes.map westernChar)
  | .utf16 isBigEndian => String.ofList (unitChars (units isBigEndian bytes))
  | .replaced => if bytes.isEmpty then "" else "\uFFFD"

/-- The text of bytes in an encoding, unless a byte order mark names another one. -/
def decode (charset : Charset) (bytes : List UInt8) : String :=
  match bytes with
  | 0xEF :: 0xBB :: 0xBF :: rest => decodePlain .utf8 rest
  | 0xFF :: 0xFE :: rest => decodePlain (.utf16 false) rest
  | 0xFE :: 0xFF :: rest => decodePlain (.utf16 true) rest
  | _ => decodePlain charset bytes

/-- A body as text, by its content type. -/
def read (contentType : String) (body : List UInt8) : String :=
  (ofContentType contentType).decode body

end Charset

end WebCompat.Net
