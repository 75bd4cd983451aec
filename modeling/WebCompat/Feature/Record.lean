import WebCompat.Calendar.Date
import WebCompat.Feature.Availability
import WebCompat.Json.Value
import WebCompat.KeyMap
import WebCompat.Text.Infix
import WebCompat.Text.Lowercase

/-!
Compatibility records: what is known about the support of one web feature, and the choice
of the record that fits a token best.
-/

namespace WebCompat

/-- The implementation of a feature in one browser. -/
structure Implementation where
  status : Availability
  version : Option String
  date : Option Date
deriving DecidableEq, Repr

/-- What is known about one web feature. Browsers are named by identifiers such as
`chrome` or `safari_ios`. -/
structure Record where
  name : String
  featureId : String
  tier : Tier
  baselineSince : Option Date
  specUrl : Option String
  browsers : KeyMap Implementation

namespace Record

/-- Whether one text occurs within another, in lower case. -/
def occursIn (needle text : String) : Bool :=
  Text.occursWithin (Text.lowercase needle).toList (Text.lowercase text).toList

/-- Whether a token occurs in the name or the identifier of the feature, in whatever case. -/
def mentions (record : Record) (token : String) : Bool :=
  occursIn token record.name || occursIn token record.featureId

end Record

/-- The record that fits a token best: the first one that mentions it, or else the first
one. -/
def selectBestMatch (token : String) (candidates : List Record) : Option Record :=
  (candidates.find? fun record => record.mentions token).or candidates.head?

namespace Json.Value

/-- A value that may be missing; null stands for none. -/
def ofOption {α : Type} (value : α → Value) : Option α → Value
  | none => .null
  | some found => value found

def ofText? (text : Option String) : Value :=
  ofOption .text text

def ofDate? (date : Option Date) : Value :=
  ofOption (fun day => .text day.text) date

def ofNat (n : Nat) : Value :=
  .number (.natural n)

def ofTexts (texts : List String) : Value :=
  .list (texts.map .text)

end Json.Value

open Json (Value)

def Implementation.toValue (implementation : Implementation) : Value :=
  .object
    [("status", .text implementation.status.name),
      ("version", Value.ofText? implementation.version),
      ("date", Value.ofDate? implementation.date)]

def Record.toValue (record : Record) : Value :=
  .object
    [("name", .text record.name),
      ("feature_id", .text record.featureId),
      ("tier", .text record.tier.name),
      ("baseline_since", Value.ofDate? record.baselineSince),
      ("spec_url", Value.ofText? record.specUrl),
      ("browsers",
        .object (record.browsers.entries.map fun entry => (entry.1, entry.2.toValue)))]

end WebCompat
