import WebCompat.Text.Lowercase

/-!
Categories of extracted tokens and the case rule of each.
-/

namespace WebCompat

/-- What an extracted token stands for. -/
inductive TokenKind where
  | htmlTag
  | cssSelector
  | cssProperty
  | jsFunction
  | jsVariable
deriving DecidableEq, Repr

namespace TokenKind

/-- Every category, in the order of the report. -/
def all : List TokenKind :=
  [.htmlTag, .cssSelector, .cssProperty, .jsFunction, .jsVariable]

/-- The name of a category in the output. -/
def name : TokenKind → String
  | .htmlTag => "html_tag"
  | .cssSelector => "css_selector"
  | .cssProperty => "css_property"
  | .jsFunction => "js_function"
  | .jsVariable => "js_variable"

/-- Markup and style tokens are read without regard to case, script tokens are not. -/
def isCaseInsensitive : TokenKind → Bool
  | .htmlTag | .cssSelector | .cssProperty => true
  | .jsFunction | .jsVariable => false

/-- The normal form of a token text: lower case where case does not matter. -/
def normalize (kind : TokenKind) (raw : String) : String :=
  if kind.isCaseInsensitive then Text.lowercase raw else raw

end TokenKind

/-- A token text in normal form together with its category. -/
structure Token where
  kind : TokenKind
  text : String
deriving DecidableEq, Repr

def Token.ofRaw (kind : TokenKind) (raw : String) : Token :=
  ⟨kind, kind.normalize raw⟩

end WebCompat
