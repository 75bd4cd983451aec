import WebCompat.Text.Taken
import WebCompat.Token.Set

/-!
Function and variable names in scripts. Three shapes bind a function and one binds a
variable; comments and quoted text are not told apart from code.
-/

namespace WebCompat.Scan

open WebCompat.Text

/-- What an identifier may begin with. -/
def startsIdentifier (c : Char) : Bool :=
  c.isAlpha || c == '_' || c == '$'

/-- What an identifier may hold. -/
def inIdentifier (c : Char) : Bool :=
  c.isAlphanum || c == '_' || c == '$'

/-- Takes the longest identifier at the front. -/
def identifier? (text : List Char) : Option (Taken (List Char) text) :=
  run? startsIdentifier inIdentifier text

/-- Takes `function`, white space and the name that follows. -/
def declaredFunction? (text : List Char) : Option (Taken String text) := do
  let keyword ← word? 'f' "unction".toList text
  let space ← blanks? keyword.rest
  let name ← identifier? space.rest
  some ⟨String.ofList name.value, name.rest, by
    have := keyword.shorter; have := space.shorter; have := name.shorter; omega⟩

/-- Takes a name, an equals sign and `function`. -/
def assignedFunction? (text : List Char) : Option (Taken String text) := do
  let name ← identifier? text
  let equals ← charAfterBlank? '=' name.rest
  let keyword ← word? 'f' "unction".toList (skipBlank equals.rest)
  some ⟨String.ofList name.value, keyword.rest, by
    have := name.shorter; have := equals.shorter; have := keyword.shorter
    have := skipBlank_length_le equals.rest
    omega⟩

/-- Takes what is left of a parameter list, its closing parenthesis and an arrow. -/
def arrowAfterParameters? (text : List Char) : Option (Taken Unit text) := do
  let close ← char? ')' (text.dropWhile (· != ')'))
  let arrow ← word? '=' ['>'] (skipBlank close.rest)
  some ⟨(), arrow.rest, by
    have := close.shorter; have := arrow.shorter
    have := length_dropWhile_le (· != ')') text
    have := skipBlank_length_le close.rest
    omega⟩

/-- Takes `const`, a name, an equals sign, a parameter list and an arrow. -/
def constArrow? (text : List Char) : Option (Taken String text) := do
  let keyword ← word? 'c' "onst".toList text
  let space ← blanks? keyword.rest
  let name ← identifier? space.rest
  let equals ← charAfterBlank? '=' name.rest
  let parenthesis ← charAfterBlank? '(' equals.rest
  let arrow ← arrowAfterParameters? parenthesis.rest
  some ⟨String.ofList name.value, arrow.rest, by
    have := keyword.shorter; have := space.shorter; have := name.shorter
    have := equals.shorter; have := parenthesis.shorter; have := arrow.shorter
    omega⟩

/-- Takes a function binding of any of the three shapes. -/
def functionName? (text : List Char) : Option (Taken String text) :=
  (declaredFunction? text).or ((assignedFunction? text).or (constArrow? text))

/-- Takes one of the three words that bind a variable. -/
def binder? (text : List Char) : Option (Taken Unit text) :=
  (word? 'v' "ar".toList text).or ((word? 'l' "et".toList text).or (word? 'c' "onst".toList text))

/-- Takes a binder, white space and the name that follows. -/
def variableName? (text : List Char) : Option (Taken String text) := do
  let keyword ← binder? text
  let space ← blanks? keyword.rest
  let name ← identifier? space.rest
  some ⟨String.ofList name.value, name.rest, by
    have := keyword.shorter; have := space.shorter; have := name.shorter; omega⟩

/-- The function and variable names of a script. A constant bound to an arrow function is
in both. -/
structure ScriptElements where
  functionNames : TokenSet
  variableNames : TokenSet
deriving DecidableEq, Repr

def ScriptElements.empty : ScriptElements :=
  ⟨.empty .jsFunction, .empty .jsVariable⟩

/-- The function and variable names in a text. -/
def scriptElements (text : String) : ScriptElements :=
  ⟨TokenSet.ofList .jsFunction (scan functionName? text.toList),
   TokenSet.ofList .jsVariable (scan variableName? text.toList)⟩

end WebCompat.Scan
