import WebCompat.Feature.Record
import WebCompat.Json.Schema

/-!
Answers of the feature service: a document with a list of candidate features, read strictly.
Fields that can be left out have a default; a value of the wrong kind, an unknown status or
a date that is none makes the whole answer unreadable.
-/

namespace WebCompat

open Json (Cause Reader Value)

/-- The specification of a feature: one address, or the addresses of several links. -/
inductive SpecReference where
  | url (address : String)
  | links (addresses : List String)
deriving DecidableEq, Repr

/-- What the service says about the baseline of a feature. -/
structure Baseline where
  status : Tier
  lowDate : Option Date
  highDate : Option Date
deriving DecidableEq, Repr

/-- One candidate feature of an answer. -/
structure Entry where
  name : String
  featureId : String
  baseline : Option Baseline
  implementations : KeyMap Implementation
  spec : Option SpecReference

namespace SpecReference

/-- The first address that is not empty. -/
def address? : SpecReference → Option String
  | .url address => [address].find? fun address => !address.isEmpty
  | .links addresses => addresses.find? fun address => !address.isEmpty

/-- The members of an object that have a given name. -/
def membersNamed (name : String) (members : List (String × Value)) : List Value :=
  (members.filter fun member => member.1 == name).map Prod.snd

/-- The address of a link: the only member `link` of an object, or the only item of a list. -/
def linkAddress? : Value → Option String
  | .list [item] => item.text?
  | .object members =>
      match membersNamed "link" members with
      | [value] => value.text?
      | _ => none
  | _ => none

/-- The specification that a value stands for: a text, or an object with a list of links. -/
def ofValue? : Value → Option SpecReference
  | .text address => some (.url address)
  | .object members =>
      match membersNamed "links" members with
      | [] => some (.links [])
      | [.list items] => (items.mapM linkAddress?).map .links
      | _ => none
  | _ => none

end SpecReference

/-- The compatibility record of a candidate. Without a baseline the tier is unknown. -/
def Entry.record (entry : Entry) : Record where
  name := entry.name
  featureId := entry.featureId
  tier := (entry.baseline.map Baseline.status).getD .unknown
  baselineSince := entry.baseline.bind Baseline.lowDate
  specUrl := entry.spec.bind SpecReference.address?
  browsers := entry.implementations

namespace Response

/-! ## The parts of an answer -/

/-- Takes a date in quotes. -/
def dateReader : Reader Date :=
  Reader.judge (Json.text "a formatted date string") fun text =>
    (Date.ofString text).mapError fun fault => .unreadable fault.message

def textReader : Reader String :=
  Json.text "a string"

/-- A field whose value always fits. -/
def field {σ α : Type} (name : String) (isGiven : σ → Bool) (reader : Reader α)
    (set : α → σ → σ) : Json.Field σ :=
  ⟨name, isGiven, Reader.map (fun value => .ok (set value)) reader⟩

/-- The fields of an implementation that were read. -/
structure ImplementationFields where
  status : Option Availability
  version : Option (Option String)
  date : Option (Option Date)

/-- The implementation of a feature in one browser; every field can be left out. -/
def implementationSchema : Json.Schema ImplementationFields Implementation where
  name := "BrowserImplementation"
  fields :=
    [field "status" (fun fields => fields.status.isSome) (Json.oneOf Availability.named)
        (fun value fields => { fields with status := some value }),
      field "version" (fun fields => fields.version.isSome) (Json.optional textReader)
        (fun value fields => { fields with version := some value }),
      field "date" (fun fields => fields.date.isSome) (Json.optional dateReader)
        (fun value fields => { fields with date := some value })]
  empty := ⟨none, none, none⟩
  build := fun fields =>
    .ok ⟨fields.status.getD .unknown, fields.version.join, fields.date.join⟩

/-- The fields of a baseline that were read. -/
structure BaselineFields where
  status : Option Tier
  lowDate : Option (Option Date)
  highDate : Option (Option Date)

/-- What the service says about the baseline of a feature; the status has to be there. -/
def baselineSchema : Json.Schema BaselineFields Baseline where
  name := "BaselineEntry"
  fields :=
    [field "status" (fun fields => fields.status.isSome) (Json.oneOf Tier.named)
        (fun value fields => { fields with status := some value }),
      field "low_date" (fun fields => fields.lowDate.isSome) (Json.optional dateReader)
        (fun value fields => { fields with lowDate := some value }),
      field "high_date" (fun fields => fields.highDate.isSome) (Json.optional dateReader)
        (fun value fields => { fields with highDate := some value })]
  empty := ⟨none, none, none⟩
  build := fun fields =>
    match fields.status with
    | none => .error "status"
    | some status => .ok ⟨status, fields.lowDate.join, fields.highDate.join⟩

/-- The levels of lists and objects that a specification may have. -/
def specLevels : Nat := 124

/-- What becomes of a specification: null is none, any other value has to have one of the two
forms. -/
def specOf : Option Value → Except Cause (Option SpecReference)
  | none => .ok none
  | some value =>
      match SpecReference.ofValue? value with
      | some spec => .ok (some spec)
      | none => .error (.noMatchingForm "SpecReference")

/-- The fields of a candidate that were read. -/
structure EntryFields where
  name : Option String
  featureId : Option String
  baseline : Option (Option Baseline)
  implementations : Option (KeyMap Implementation)
  spec : Option (Option SpecReference)

/-- Takes the specification of a candidate, which is read as a whole before it is asked which
form it has. -/
def specReader : Reader (Except Cause (EntryFields → EntryFields)) :=
  Reader.map
    (fun value =>
      (specOf value).map fun spec fields => { fields with spec := some spec })
    (Json.optional (Json.value Json.kept specLevels))

/-- A candidate feature; its name and identifier have to be there. -/
def entrySchema : Json.Schema EntryFields Entry where
  name := "FeatureEntry"
  fields :=
    [field "name" (fun fields => fields.name.isSome) textReader
        (fun value fields => { fields with name := some value }),
      field "feature_id" (fun fields => fields.featureId.isSome) textReader
        (fun value fields => { fields with featureId := some value }),
      field "baseline" (fun fields => fields.baseline.isSome)
        (Json.optional baselineSchema.reader)
        (fun value fields => { fields with baseline := some value }),
      field "browser_implementations" (fun fields => fields.implementations.isSome)
        (Reader.map KeyMap.ofList (Json.table implementationSchema.reader))
        (fun value fields => { fields with implementations := some value }),
      ⟨"spec", fun fields => fields.spec.isSome, specReader⟩]
  empty := ⟨none, none, none, none, none⟩
  build := fun fields =>
    match fields.name, fields.featureId with
    | none, _ => .error "name"
    | some _, none => .error "feature_id"
    | some name, some featureId =>
        .ok
          ⟨name, featureId, fields.baseline.join, fields.implementations.getD .empty,
            fields.spec.join⟩

/-- A whole answer; without a list of candidates there are none. -/
def schema : Json.Schema (Option (List Entry)) (List Entry) where
  name := "FeatureQueryResponse"
  fields :=
    [field "data" Option.isSome (Json.list entrySchema.reader) (fun value _ => some value)]
  empty := none
  build := fun candidates => .ok (candidates.getD [])

/-! ## Whole answers -/

/-- The candidates in an answer. -/
def entries (body : String) : Except Json.Error (List Entry) :=
  Json.read schema.reader body

/-- The compatibility records of the candidates in an answer. -/
def records (body : String) : Except Json.Error (List Record) :=
  (entries body).map fun candidates => candidates.map Entry.record

end Response

end WebCompat
