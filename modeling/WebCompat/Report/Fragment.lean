import WebCompat.Report.Browser
import WebCompat.Token.Kind

/-!
Display fragments: what a reader is shown about one token, and in it the summary of its
compatibility record.
-/

namespace WebCompat

open Json (Value)

/-- How one browser stands to one feature. -/
inductive SupportState where
  | supported
  | notSupported
  /-- Nothing is known about the browser. -/
  | unknown
deriving DecidableEq, Repr

def SupportState.name : SupportState → String
  | .supported => "supported"
  | .notSupported => "not_supported"
  | .unknown => "unknown"

/-- An available implementation is support, any other is none. -/
def SupportState.ofAvailability : Availability → SupportState
  | .available => .supported
  | .unavailable | .unknown => .notSupported

/-- One browser in a summary. The source is the identifier that the data came from. -/
structure BrowserCell where
  browser : Browser
  source : Option String
  state : SupportState
  version : Option String
deriving DecidableEq, Repr

/-- What a record says about one browser. -/
def BrowserCell.ofRecord (record : Record) (browser : Browser) : BrowserCell :=
  match browser.findIn record with
  | some (key, implementation) =>
      ⟨browser, some key, .ofAvailability implementation.status, implementation.version⟩
  | none => ⟨browser, none, .unknown, none⟩

/-- The summary of a compatibility record, with a cell for every browser shown. -/
structure Summary where
  featureName : String
  featureId : String
  tier : Tier
  availableSince : Option String
  specUrl : Option String
  browsers : List BrowserCell
deriving DecidableEq, Repr

def Summary.ofRecord (record : Record) : Summary where
  featureName := record.name
  featureId := record.featureId
  tier := record.tier
  availableSince := record.baselineSince.map Date.text
  specUrl := record.specUrl
  browsers := Browser.all.map (BrowserCell.ofRecord record)

/-- How a token is labelled: tags in angle brackets, functions with parentheses. -/
def TokenKind.label (kind : TokenKind) (token : String) : String :=
  match kind with
  | .htmlTag => "<" ++ token ++ ">"
  | .jsFunction => token ++ "()"
  | .cssSelector | .cssProperty | .jsVariable => token

/-- What a reader is shown about one token. Without support there is no data. -/
structure Fragment where
  token : String
  kind : TokenKind
  label : String
  support : Option Summary
deriving DecidableEq, Repr

namespace Fragment

/-- The fragment of a token for which a record was found or not. -/
def ofRecord? (token : String) (record : Option Record) (kind : TokenKind) : Fragment :=
  ⟨token, kind, kind.label token, record.map Summary.ofRecord⟩

def hasData (fragment : Fragment) : Bool :=
  fragment.support.isSome

end Fragment

/-! ## As values -/

def BrowserCell.toValue (cell : BrowserCell) : Value :=
  .object
    [("browser", .text cell.browser.key),
      ("source_key", Value.ofText? cell.source),
      ("state", .text cell.state.name),
      ("version", Value.ofText? cell.version)]

def Summary.toValue (summary : Summary) : Value :=
  .object
    [("feature_name", .text summary.featureName),
      ("feature_id", .text summary.featureId),
      ("tier", .text summary.tier.name),
      ("available_since", Value.ofText? summary.availableSince),
      ("spec_url", Value.ofText? summary.specUrl),
      ("browsers", .list (summary.browsers.map BrowserCell.toValue))]

def Fragment.toValue (fragment : Fragment) : Value :=
  .object
    [("token", .text fragment.token),
      ("kind", .text fragment.kind.name),
      ("label", .text fragment.label),
      ("support", Value.ofOption Summary.toValue fragment.support)]

end WebCompat
