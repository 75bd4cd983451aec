import WebCompat.Lookup.Client
import WebCompat.Report.Fragment
import WebCompat.Scan.Document
import WebCompat.Vocabulary

/-!
The analysis of a whole document: what it holds by category, and what is known about the
tokens that are worth a lookup. Each category is judged in the language that it is written
in, whatever the document around it.
-/

namespace WebCompat

open Json (Value)

/-- Whether a token of a category is worth a lookup; selectors never are. -/
def TokenKind.isQueried (kind : TokenKind) (token : String) : Bool :=
  match kind with
  | .htmlTag => Vocabulary.recognizes .html token
  | .cssProperty => Vocabulary.recognizes .css token
  | .jsFunction | .jsVariable => Vocabulary.recognizes .javascript token
  | .cssSelector => false

/-- The tokens of a set that are worth a lookup. -/
def TokenSet.queried (set : TokenSet) : List String :=
  set.items.filter set.kind.isQueried

/-- The tokens of a document that are worth a lookup, each once: tags, properties, functions,
variables. -/
def DocumentElements.queries (elements : DocumentElements) : List String :=
  (elements.htmlTags.queried ++ elements.css.properties.queried
    ++ elements.js.functionNames.queried ++ elements.js.variableNames.queried).eraseDups

/-- The tokens of one category and what is shown about those that were looked up. -/
structure Category where
  tokens : TokenSet
  support : KeyMap Fragment

namespace Category

/-- A category with the outcomes of a batch. -/
def ofBatch (tokens : TokenSet) (batch : Batch) : Category where
  tokens := tokens
  support :=
    .ofList
      ((tokens.queried.filter batch.contains).map fun token =>
        (token, Fragment.ofRecord? token (batch.get? token) tokens.kind))

/-- What is shown about a token, if it was looked up. -/
def fragment? (category : Category) (token : String) : Option Fragment :=
  category.support.get? token

def toValue (category : Category) : Value :=
  .object
    [("tokens", Value.ofTexts category.tokens.items),
      ("support",
        .object (category.support.entries.map fun entry => (entry.1, entry.2.toValue)))]

end Category

/-- The analysis of a document. -/
structure Analysis where
  kind : DocumentKind
  htmlTags : Category
  cssSelectors : Category
  cssProperties : Category
  jsFunctions : Category
  jsVariables : Category
  /-- How many lookups failed; their tokens are shown without data. -/
  failedLookups : Nat

namespace Analysis

/-- The analysis of what a document holds, with the outcomes of a batch. -/
def ofBatch (kind : DocumentKind) (elements : DocumentElements) (batch : Batch) :
    Analysis where
  kind := kind
  htmlTags := .ofBatch elements.htmlTags batch
  cssSelectors := .ofBatch elements.css.selectors batch
  cssProperties := .ofBatch elements.css.properties batch
  jsFunctions := .ofBatch elements.js.functionNames batch
  jsVariables := .ofBatch elements.js.variableNames batch
  failedLookups := batch.failed

/-- The categories with their headings, in display order. -/
def categories (analysis : Analysis) : List (String × Category) :=
  [("HTML Elements", analysis.htmlTags),
    ("CSS Selectors", analysis.cssSelectors),
    ("CSS Properties", analysis.cssProperties),
    ("JavaScript Functions", analysis.jsFunctions),
    ("JavaScript Variables", analysis.jsVariables)]

/-- The analysis of a document, every token that is worth it being looked up. -/
def ofDocument (service : Service) (client : Client) (kind : DocumentKind) (text : String)
    (before : List Request) : Analysis × List Request :=
  let elements := DocumentElements.ofText kind text
  let answer := Client.resolveMany service client elements.queries before
  (ofBatch kind elements answer.1, answer.2)

/-- The analysis of a document without any lookup. -/
def offline (kind : DocumentKind) (text : String) : Analysis :=
  ofBatch kind (DocumentElements.ofText kind text) .empty

def toValue (analysis : Analysis) : Value :=
  .object
    [("kind", .text analysis.kind.id),
      ("html_tags", analysis.htmlTags.toValue),
      ("css_selectors", analysis.cssSelectors.toValue),
      ("css_properties", analysis.cssProperties.toValue),
      ("js_functions", analysis.jsFunctions.toValue),
      ("js_variables", analysis.jsVariables.toValue),
      ("failed_lookups", Value.ofNat analysis.failedLookups)]

end Analysis

end WebCompat
