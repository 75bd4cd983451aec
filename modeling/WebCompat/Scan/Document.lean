import WebCompat.DocumentKind
import WebCompat.Scan.Markup
import WebCompat.Scan.Style
import WebCompat.Scan.Script
import WebCompat.Text.Infix

/-!
What a document holds: the scans that its kind calls for, side by side.
-/

namespace WebCompat

open WebCompat.Scan

/-- The tokens of a document by category. A category that was not scanned is empty. -/
structure DocumentElements where
  htmlTags : TokenSet
  css : StyleElements
  js : ScriptElements
deriving DecidableEq, Repr

namespace DocumentElements

def empty : DocumentElements :=
  ⟨.empty .htmlTag, .empty, .empty⟩

def isEmpty (elements : DocumentElements) : Bool :=
  elements.htmlTags.isEmpty && elements.css.selectors.isEmpty
    && elements.css.properties.isEmpty && elements.js.functionNames.isEmpty
    && elements.js.variableNames.isEmpty

/-- Whether a script seems to build markup in a template: it has a back quote and the
beginning of one of three common tags. -/
def hasTemplateMarkup (text : List Char) : Bool :=
  text.contains '\x60'
    && (Text.occursWithin "<div".toList text || Text.occursWithin "<span".toList text
      || Text.occursWithin "<p".toList text)

/-- Markup and documents of unknown kind get every scan. -/
def scansAll : DocumentKind → Bool
  | .html | .other => true
  | _ => false

def scansMarkup (kind : DocumentKind) (text : String) : Bool :=
  scansAll kind || kind.isJsx || (kind.isScript && hasTemplateMarkup text.toList)

def scansStyle (kind : DocumentKind) : Bool :=
  scansAll kind || kind.isStylesheet

def scansScript (kind : DocumentKind) : Bool :=
  scansAll kind || kind.isScript

/-- The tokens of a text read as a document of the given kind. -/
def ofText (kind : DocumentKind) (text : String) : DocumentElements where
  htmlTags := if scansMarkup kind text then tagNames text else .empty .htmlTag
  css := if scansStyle kind then styleElements text else .empty
  js := if scansScript kind then scriptElements text else .empty

end DocumentElements

end WebCompat
