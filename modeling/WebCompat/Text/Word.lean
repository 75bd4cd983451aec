import WebCompat.Text.Property.Addition
import WebCompat.Text.Property.Alphabetic
import WebCompat.Text.Property.Mark
import WebCompat.Text.Property.Number

/-!
Which characters make up words: the Unicode definition (letters, marks, decimal digits,
connectors and joiners), and where words begin and end.
-/

namespace WebCompat.Text

/-- Connector punctuation (Pc) from U+0080 on. -/
def connectorRanges : Ranges :=
  [(0x203F, 0x2040), (0x2054, 0x2054), (0xFE33, 0xFE34), (0xFE4D, 0xFE4F), (0xFF3F, 0xFF3F)]

/-- The two zero-width joiners. -/
def joinerRanges : Ranges :=
  [(0x200C, 0x200D)]

/-- A letter, mark, decimal digit, connector or joiner, as version 16.0 of the standard knows
them. In ASCII these are the letters, the digits and the low line. -/
def isWordChar (c : Char) : Bool :=
  if c.toNat < 0x80 then c.isAlphanum || c == '_'
  else
    !addedRanges.contains c.toNat
      && (alphabeticRanges.contains c.toNat || nonspacingMarkRanges.contains c.toNat
        || spacingMarkRanges.contains c.toNat || decimalRanges.contains c.toNat
        || connectorRanges.contains c.toNat || joinerRanges.contains c.toNat)

/-- A letter or a number of any kind. In ASCII these are the letters and the digits. -/
def isAlphanumeric (c : Char) : Bool :=
  if c.toNat < 0x80 then c.isAlphanum
  else
    alphabeticRanges.contains c.toNat || decimalRanges.contains c.toNat
      || otherNumberRanges.contains c.toNat

/-- Whether a word begins or ends between two neighbours: exactly one of them is a word
character. Outside the text there is none. -/
def isBoundary (before after : Option Char) : Bool :=
  before.any isWordChar != after.any isWordChar

end WebCompat.Text
