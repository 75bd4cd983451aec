import WebCompat.Text.Taken
import WebCompat.Text.Word
import WebCompat.Token.Set

/-!
Tag names in marked-up text. A tag is `<` or `</`, a name, and whatever follows up to the
next `>`; comments and quoted text are not told apart from markup.
-/

namespace WebCompat.Scan

open WebCompat.Text

/-- Takes the name of a tag and what follows it up to and including the next `>`. The name
is an ASCII letter and the longest run of ASCII letters and digits after it, and it has
to end a word. -/
def tagName? (text : List Char) : Option (Taken String text) := do
  let name ← run? Char.isAlpha Char.isAlphanum text
  if name.rest.head?.any isWordChar then none
  else
    match closing : name.rest.dropWhile (· != '>') with
    | [] => none
    | _ :: rest =>
        some ⟨String.ofList name.value, rest, by
          have bound := length_dropWhile_le (· != '>') name.rest
          rw [closing] at bound
          have := name.shorter
          simp only [List.length_cons] at bound
          omega⟩

/-- Takes an opening or closing tag and yields its name. -/
def tag? : (text : List Char) → Option (Taken String text)
  | '<' :: '/' :: text => (tagName? text).map fun name => name.widen
      (Nat.le_trans Text.length_le_cons Text.length_le_cons)
  | '<' :: text => (tagName? text).map fun name => name.widen Text.length_le_cons
  | _ => none

/-- The names of the tags in a text. -/
def tagNames (text : String) : TokenSet :=
  TokenSet.ofList .htmlTag (scan tag? text.toList)

end WebCompat.Scan
