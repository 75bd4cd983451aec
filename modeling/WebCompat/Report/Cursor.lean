import WebCompat.Lookup.Client
import WebCompat.Report.Hover
import WebCompat.Text.Lines
import WebCompat.Text.Occurrence
import WebCompat.Text.Span
import WebCompat.Vocabulary

/-!
The word under a cursor and the report on it. Words of a style sheet keep their hyphens.
-/

namespace WebCompat

/-- Whether a character is part of a word in a document of the given kind. -/
def DocumentKind.inWord (kind : DocumentKind) (c : Char) : Bool :=
  c.isAlphanum || c == '_' || c == '$' || (kind.isStylesheet && c == '-')

/-- The word of a line that touches the position before the character of a column. -/
def wordAt? (kind : DocumentKind) (line : String) (column : Nat) : Option Text.Span :=
  Text.spanAt? kind.inWord line column

/-- The category under which a hovered word is shown. -/
def DocumentKind.hoverKind (kind : DocumentKind) (word : String) : TokenKind :=
  if kind.isStylesheet then .cssProperty
  else if kind = .html ∨ (kind.isJsx ∧ Vocabulary.isHtmlTag word) then .htmlTag
  else .jsVariable

/-- What is known about the support of a word, which is looked up if it is worth it. -/
def HoverSupport.ofWord (service : Service) (client : Client) (kind : DocumentKind)
    (word : String) (before : List Request) : HoverSupport × List Request :=
  if Vocabulary.recognizes kind word then
    let answer := Client.resolveOne service client word before
    match answer.1 with
    | .ok record =>
        (.resolved record (.ofRecord? word record (kind.hoverKind word)), answer.2)
    | .error error => (.failed error.message, answer.2)
  else (.notQueried, before)

/-- The report on the word at a line and a column, which count from zero here; none if there
is no word. -/
def HoverReport.at? (service : Service) (client : Client) (kind : DocumentKind)
    (text : String) (line column : Nat) (before : List Request) :
    Option HoverReport × List Request :=
  match (Text.lines text)[line]? with
  | none => (none, before)
  | some lineText =>
      match wordAt? kind lineText column with
      | none => (none, before)
      | some span =>
          let answer := HoverSupport.ofWord service client kind span.word before
          (some
            { word := span.word
              line := line + 1
              column := column + 1
              lineText := Text.trim lineText
              occurrences := Text.occurrences text span.word
              support := answer.1 },
            answer.2)

end WebCompat
