import WebCompat.Text.Lowercase.Table
import WebCompat.Text.Property.Casing

/-!
Full lower-casing of text by the Unicode rules that depend on no language: one code point
becomes one, except that the dotted capital I becomes an i and a combining dot, and a
capital sigma at the end of a word takes its final form.
-/

namespace WebCompat.Text

/-- The Unicode property Cased. -/
def isCased (c : Char) : Bool :=
  if c.toNat < 0x80 then c.isAlpha else casedRanges.contains c.toNat

/-- The Unicode property Case_Ignorable. -/
def isCaseIgnorable (c : Char) : Bool :=
  if c.toNat < 0x80 then c == '\'' || c == '.' || c == ':' || c == '^' || c == '\x60'
  else caseIgnorableRanges.contains c.toNat

/-- The lower-case form of one character outside of any context. -/
def lowercaseChar (c : Char) : List Char :=
  if c.toNat < 0x80 then [c.toLower]
  else if c = '\u0130' then ['i', '\u0307']
  else [((CaseRow.image? lowercaseRows c.toNat).map Char.ofNat).getD c]

/-- Whether the first character that is not case-ignorable is a cased one. -/
def meetsCased (s : List Char) : Bool :=
  (s.dropWhile isCaseIgnorable).head?.any isCased

/-- The form of a capital sigma between two pieces of text, the one before it given
backwards: final when a cased letter comes before it and none after it. -/
def sigmaForm (before after : List Char) : Char :=
  if meetsCased before && !meetsCased after then 'ς' else 'σ'

/-- Lower-cases what follows `before`, which is given backwards. -/
def lowercaseAfter (before : List Char) : List Char → List Char
  | [] => []
  | c :: s =>
      (if c = 'Σ' then [sigmaForm before s] else lowercaseChar c)
        ++ lowercaseAfter (c :: before) s

/-- The lower-case form of a string. -/
def lowercase (s : String) : String :=
  String.ofList (lowercaseAfter [] s.toList)

end WebCompat.Text
