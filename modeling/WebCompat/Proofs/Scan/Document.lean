import WebCompat.Proofs.Token.Set
import WebCompat.Scan.Document

/-!
What a document holds, by category: the texts that the scan of a category finds, put into the set
of that category. A scan that the kind of a document does not call for finds nothing.
-/

namespace WebCompat.DocumentElements

/-- The token sets of a document, in the order of the report. -/
def sets (elements : DocumentElements) : List TokenSet :=
  [elements.htmlTags, elements.css.selectors, elements.css.properties,
    elements.js.functionNames, elements.js.variableNames]

/-- The texts found in a document for a category, before its case rule and with repetitions. -/
def found (kind : DocumentKind) (text : String) : TokenKind → List String
  | .htmlTag => if scansMarkup kind text then Text.scan Scan.tag? text.toList else []
  | .cssSelector => if scansStyle kind then Text.scan Scan.selector? text.toList else []
  | .cssProperty => if scansStyle kind then Text.scan Scan.property? text.toList else []
  | .jsFunction => if scansScript kind then Text.scan Scan.functionName? text.toList else []
  | .jsVariable => if scansScript kind then Text.scan Scan.variableName? text.toList else []

/-- Every set of a document holds what was found for its category. -/
theorem sets_ofText (kind : DocumentKind) (text : String) :
    (ofText kind text).sets =
      TokenKind.all.map fun category => .ofList category (found kind text category) := by
  simp only [sets, ofText, TokenKind.all, List.map_cons, List.map_nil, found]
  congr
  · split <;> rfl
  · split <;> rfl
  · split <;> rfl
  · split <;> rfl
  · split <;> rfl

theorem kinds_ofText (kind : DocumentKind) (text : String) :
    (ofText kind text).sets.map TokenSet.kind = TokenKind.all := by
  rw [sets_ofText, List.map_map]
  exact List.map_id'' (fun category => TokenSet.kind_ofList category _) TokenKind.all

end WebCompat.DocumentElements
