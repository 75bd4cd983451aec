import WebCompat.Net.Domain.Direction
import WebCompat.Net.Domain.Joining
import WebCompat.Net.Domain.Replacement
import WebCompat.Net.Punycode
import WebCompat.Text.Lowercase.Table
import WebCompat.Text.Property.Display
import WebCompat.Text.Split
import WebCompat.Text.Utf8

/-!
Names of hosts in any script (internationalized domain names): characters are replaced by what
they stand for, labels in their ASCII form are decoded, all labels have to be well formed, and
the name is written with ASCII characters only.
-/

namespace WebCompat.Net.Domain

/-! ## Characters -/

def isJoiner (c : Char) : Bool :=
  c == '\u200c' || c == '\u200d'

/-- Whether a character cannot be in the name of a host, if it stands for itself. -/
def isRefused (c : Char) : Bool :=
  (Text.unprintableRanges.contains c.toNat && !isJoiner c) || refusedRanges.contains c.toNat

/-- What several characters stand for a character, if several do. -/
def multiple? (n : Nat) : Option (List Char) :=
  multipleRows.findSome? fun row =>
    if row.1 ≤ n then (row.2[n - row.1]?).map String.toList else none

/-- A character beyond ASCII in lower case, where it has another one. -/
def lowered (c : Char) : Char :=
  if capitalRanges.contains c.toNat then c
  else ((Text.CaseRow.image? Text.lowercaseRows c.toNat).map Char.ofNat).getD c

/-- The characters that a character stands for. None if it cannot be in a name. -/
def meaning? (c : Char) : Option (List Char) :=
  if c.toNat < 0x80 then some [c.toLower]
  else
    match Text.runImage? singleRows c.toNat, multiple? c.toNat with
    | some other, _ => some [other]
    | none, some others => some others
    | none, none =>
        if ignoredRanges.contains c.toNat then some []
        else if isRefused c then none
        else some [lowered c]

/-- Whether a character stands for itself. -/
def isPlain (c : Char) : Bool :=
  meaning? c == some [c]

/-! ## Labels -/

def isAscii (text : List Char) : Bool :=
  text.all fun c => c.toNat < 0x80

/-- The number of characters of the longest label that is not ASCII. -/
def longestLabel : Nat := 1000

/-- The number of characters of the longest ASCII form, without its mark. -/
def longestForm : Nat := 2000

/-- The label that an ASCII form denotes, without its mark. It needs that form, and its
characters stand for themselves, one by one and together. -/
def decoded? (form : List Char) : Option (List Char) :=
  if longestForm < form.length then none
  else
    (Punycode.decode? form).bind fun label =>
      if !isAscii label && label.all isPlain && Text.composed label == label then some label
      else none

def isMark (c : Char) : Bool :=
  Text.nonspacingMarkRanges.contains c.toNat || Text.spacingMarkRanges.contains c.toNat

/-- Whether a label that is not ASCII is well formed. -/
def isWellFormed (label : List Char) : Bool :=
  !label.head?.any isMark && joinersFit [] label && label.length ≤ longestLabel

/-- The label that a text stands for: one in ASCII form is decoded. -/
def label? (text : List Char) : Option (List Char) :=
  let label :=
    match text with
    | 'x' :: 'n' :: '-' :: '-' :: form => decoded? form
    | _ => some text
  label.filter fun label => isAscii label || isWellFormed label

/-- A label with ASCII characters only. -/
def asciiLabel (label : List Char) : List Char :=
  if isAscii label then label else ['x', 'n', '-', '-'] ++ Punycode.encode label

/-! ## Names -/

def labels? (name : List Char) : Option (List (List Char)) :=
  ((name.mapM meaning?).bind fun meanings =>
    (Text.splitAt '.' (Text.composed meanings.flatten)).mapM label?).filter keepDirection

/-- The name that bytes stand for, with ASCII characters only. -/
def asciiName? (bytes : List UInt8) : Option (List Char) :=
  ((Text.ofBytes? bytes).bind fun name => labels? name.toList).map fun labels =>
    Text.joinWith ['.'] (labels.map asciiLabel)

end WebCompat.Net.Domain
