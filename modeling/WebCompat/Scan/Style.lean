import WebCompat.Text.Taken
import WebCompat.Token.Set

/-!
Selectors and property names in style sheets. The two scans are independent: a property
is a name before a colon and a selector is a name before an opening brace, wherever they
stand.
-/

namespace WebCompat.Scan

open WebCompat.Text

/-- What a style name may begin with. -/
def startsStyleName (c : Char) : Bool :=
  c.isAlpha || c == '_' || c == '-'

/-- What a style name may hold. -/
def inStyleName (c : Char) : Bool :=
  c.isAlphanum || c == '_' || c == '-'

/-- What a property name holds. -/
def inPropertyName (c : Char) : Bool :=
  c.isAlpha || c == '-'

/-- Takes a style name and the opening brace after it. -/
def bareSelector? (text : List Char) : Option (Taken (List Char) text) := do
  let name ← run? startsStyleName inStyleName text
  let brace ← charAfterBlank? '\x7b' name.rest
  some ⟨name.value, brace.rest, Nat.lt_trans brace.shorter name.shorter⟩

/-- Takes a selector, which may carry the mark of a class or of an identifier, and the
opening brace after it. -/
def selector? : (text : List Char) → Option (Taken String text)
  | [] => none
  | c :: text =>
      if c = '.' ∨ c = '#' then
        (bareSelector? text).map fun name =>
          (name.map fun chars => String.ofList (c :: chars)).widen Text.length_le_cons
      else
        (bareSelector? (c :: text)).map fun name => name.map String.ofList

/-- Takes a property name and the colon after it. -/
def property? (text : List Char) : Option (Taken String text) := do
  let name ← run? inPropertyName inPropertyName text
  let colon ← charAfterBlank? ':' name.rest
  some ⟨String.ofList name.value, colon.rest, Nat.lt_trans colon.shorter name.shorter⟩

/-- The selectors and properties of a style sheet. -/
structure StyleElements where
  selectors : TokenSet
  properties : TokenSet
deriving DecidableEq, Repr

def StyleElements.empty : StyleElements :=
  ⟨.empty .cssSelector, .empty .cssProperty⟩

/-- The selectors and properties in a text. -/
def styleElements (text : String) : StyleElements :=
  ⟨TokenSet.ofList .cssSelector (scan selector? text.toList),
   TokenSet.ofList .cssProperty (scan property? text.toList)⟩

end WebCompat.Scan
