import WebCompat.Proofs.Calendar.Date
import WebCompat.Proofs.Feature.Response
import WebCompat.Proofs.Json.Printer
import WebCompat.Proofs.KeyMap

/-!
Records that are written as candidates of an answer and read back. Every part of a candidate is
written as a tree that means the part, and so is the answer.

Owns: the answer that records are written as, and that it has the same records again.
-/

namespace WebCompat

open Json (Prints Tree Value spelled)

/-! ## Candidates as values -/

/-- A record as a candidate of an answer. -/
def Record.candidate (record : Record) : Value :=
  .object
    [("name", .text record.name),
      ("feature_id", .text record.featureId),
      ("baseline",
        .object
          [("status", .text record.tier.name), ("low_date", Value.ofDate? record.baselineSince)]),
      ("browser_implementations",
        .object (record.browsers.entries.map fun entry => (entry.1, entry.2.toValue))),
      ("spec", Value.ofText? record.specUrl)]

namespace Response

def answer (records : List Record) : Value :=
  .object [("data", .list (records.map Record.candidate))]

/-! ## Candidates as trees -/

def textTree (text : String) : Tree :=
  .text (spelled text)

/-- Something that may be missing as a tree; null stands for none. -/
def optionTree {α : Type} (tree : α → Tree) : Option α → Tree
  | none => .null
  | some found => tree found

def dateTree (date : Date) : Tree :=
  textTree date.text

def implementationTree (implementation : Implementation) : Tree :=
  .object
    [(spelled "status", textTree implementation.status.name),
      (spelled "version", optionTree textTree implementation.version),
      (spelled "date", optionTree dateTree implementation.date)]

def baselineTree (record : Record) : Tree :=
  .object
    [(spelled "status", textTree record.tier.name),
      (spelled "low_date", optionTree dateTree record.baselineSince)]

def browsersTree (record : Record) : Tree :=
  .object (record.browsers.entries.map fun entry => (spelled entry.1, implementationTree entry.2))

def candidateTree (record : Record) : Tree :=
  .object
    [(spelled "name", textTree record.name),
      (spelled "feature_id", textTree record.featureId),
      (spelled "baseline", baselineTree record),
      (spelled "browser_implementations", browsersTree record),
      (spelled "spec", optionTree textTree record.specUrl)]

def answerTree (records : List Record) : Tree :=
  .object [(spelled "data", .list (records.map candidateTree))]

theorem prints_textTree (text : String) : Prints (.text text) (textTree text) :=
  Json.prints_text text

theorem prints_optionTree {α : Type} {value : α → Value} {tree : α → Tree}
    (prints : ∀ found, Prints (value found) (tree found)) (option : Option α) :
    Prints (Value.ofOption value option) (optionTree tree option) := by
  cases option with
  | none => exact Json.prints_null
  | some found => exact prints found

theorem prints_optionalDate (date : Option Date) :
    Prints (Value.ofDate? date) (optionTree dateTree date) := by
  apply prints_optionTree
  exact fun day => prints_textTree day.text

theorem prints_implementationTree (implementation : Implementation) :
    Prints implementation.toValue (implementationTree implementation) := by
  apply Json.prints_object
  exact .cons ⟨rfl, prints_textTree _⟩
    (.cons ⟨rfl, prints_optionTree prints_textTree _⟩
      (.cons ⟨rfl, prints_optionalDate _⟩ .nil))

theorem prints_baselineTree (record : Record) :
    Prints
      (.object
        [("status", .text record.tier.name), ("low_date", Value.ofDate? record.baselineSince)])
      (baselineTree record) := by
  apply Json.prints_object
  exact .cons ⟨rfl, prints_textTree _⟩
    (.cons ⟨rfl, prints_optionalDate _⟩ .nil)

theorem prints_browsersTree (record : Record) :
    Prints (.object (record.browsers.entries.map fun entry => (entry.1, entry.2.toValue)))
      (browsersTree record) := by
  apply Json.prints_object
  rw [List.forall₂_map_left_iff, List.forall₂_map_right_iff, List.forall₂_same]
  exact fun entry _ => ⟨rfl, prints_implementationTree entry.2⟩

theorem prints_candidateTree (record : Record) :
    Prints record.candidate (candidateTree record) := by
  apply Json.prints_object
  exact .cons ⟨rfl, prints_textTree _⟩
    (.cons ⟨rfl, prints_textTree _⟩
      (.cons ⟨rfl, prints_baselineTree record⟩
        (.cons ⟨rfl, prints_browsersTree record⟩
          (.cons ⟨rfl, prints_optionTree prints_textTree _⟩ .nil))))

/-- The answer that is made of records is printed as its tree says. -/
theorem prints_answerTree (records : List Record) :
    Prints (answer records) (answerTree records) := by
  have each : List.Forall₂ Prints (records.map Record.candidate) (records.map candidateTree) := by
    rw [List.forall₂_map_left_iff, List.forall₂_map_right_iff, List.forall₂_same]
    exact fun record _ => prints_candidateTree record
  apply Json.prints_object
  exact .cons ⟨rfl, Json.prints_list each⟩ .nil

/-! ## What the trees mean -/

private theorem string?_textTree (text : String) : (textTree text).string? = some text :=
  Json.string?_spelled text

private theorem kind_textTree_ne (text : String) : (textTree text).kind ≠ .null := by
  simp [textTree, Tree.kind]

private theorem kind_dateTree_ne (date : Date) : (dateTree date).kind ≠ .null := by
  rw [dateTree]
  exact kind_textTree_ne date.text

private theorem dateOf_dateTree (date : Date) : dateOf (dateTree date) = some date := by
  rw [dateOf, dateTree, string?_textTree, Option.bind_some, Date.ofString_text]
  rfl

private theorem optional?_optionTree {α : Type} {meaning : Tree → Option α} {tree : α → Tree}
    (notNull : ∀ found, (tree found).kind ≠ .null)
    (means : ∀ found, meaning (tree found) = some found) (option : Option α) :
    (optionTree tree option).optional? meaning = some option := by
  cases option with
  | none => rfl
  | some found =>
      rw [optionTree, Tree.optional?_of_ne (notNull found), means]
      rfl

private theorem variant?_textTree {α : Type} {known : List (String × α)} {name : String} {value : α}
    (isKnown : known.lookup name = some value) : (textTree name).variant? known = some value := by
  rw [textTree, Tree.variant?, Json.string?_spelled, Option.bind_some, isKnown]

/-- What a member does whose value means something to the field. -/
theorem step_spelled {σ α β : Type} {schema : Json.Schema σ α} (lawful : schema.IsLawful)
    {reader : Json.Reader β} {meaning : Tree → Option β} (reads : Json.Reads reader meaning)
    {name : String} {isGiven : σ → Bool} {set : β → σ → σ}
    (isField : field name isGiven reader set ∈ schema.fields) {state : σ}
    (notGiven : isGiven state = false) {tree : Tree} {value : β}
    (means : meaning tree = some value) :
    schema.step state (spelled name, tree) = some (set value state) := by
  apply lawful.step_of_field isField (Json.string?_spelled name) notGiven
  rw [field_on reads, means]
  rfl

private theorem lookup_availability (status : Availability) :
    Availability.named.lookup status.name = some status := by
  cases status <;> decide

private theorem lookup_tier (tier : Tier) : Tier.named.lookup tier.name = some tier := by
  cases tier <;> decide

private theorem optional?_optionTree_text (text : Option String) :
    (optionTree textTree text).optional? Tree.string? = some text :=
  optional?_optionTree kind_textTree_ne string?_textTree text

private theorem optional?_optionTree_date (date : Option Date) :
    (optionTree dateTree date).optional? dateOf = some date :=
  optional?_optionTree kind_dateTree_ne dateOf_dateTree date

theorem ofTree_implementationTree (implementation : Implementation) :
    implementationSchema.ofTree (implementationTree implementation) = some implementation := by
  obtain ⟨status, version, date⟩ := implementation
  have lawful := implementationSchema_isLawful
  have first : implementationSchema.step implementationSchema.empty
      (spelled "status", textTree status.name) = some ⟨some status, none, none⟩ :=
    step_spelled lawful (Json.oneOf_reads _) (.head _) rfl
      (variant?_textTree (lookup_availability status))
  have second : implementationSchema.step ⟨some status, none, none⟩
      (spelled "version", optionTree textTree version) = some ⟨some status, some version, none⟩ :=
    step_spelled lawful (Json.optional_reads textReader_reads) (.tail _ (.head _)) rfl
      (optional?_optionTree_text version)
  have third : implementationSchema.step ⟨some status, some version, none⟩
      (spelled "date", optionTree dateTree date) = some ⟨some status, some version, some date⟩ :=
    step_spelled lawful (Json.optional_reads dateReader_reads) (.tail _ (.tail _ (.head _))) rfl
      (optional?_optionTree_date date)
  simp only [implementationTree, Json.Schema.ofTree, Json.Schema.stateOf, List.foldlM_cons,
    List.foldlM_nil, Option.bind_eq_bind, first, second, third, Option.bind_some]
  rfl

theorem ofTree_baselineTree (record : Record) :
    baselineSchema.ofTree (baselineTree record) =
      some ⟨record.tier, record.baselineSince, none⟩ := by
  have lawful := baselineSchema_isLawful
  have first : baselineSchema.step baselineSchema.empty
      (spelled "status", textTree record.tier.name) = some ⟨some record.tier, none, none⟩ :=
    step_spelled lawful (Json.oneOf_reads _) (.head _) rfl
      (variant?_textTree (lookup_tier record.tier))
  have second : baselineSchema.step ⟨some record.tier, none, none⟩
      (spelled "low_date", optionTree dateTree record.baselineSince) =
        some ⟨some record.tier, some record.baselineSince, none⟩ :=
    step_spelled lawful (Json.optional_reads dateReader_reads) (.tail _ (.head _)) rfl
      (optional?_optionTree_date record.baselineSince)
  simp only [baselineTree, Json.Schema.ofTree, Json.Schema.stateOf, List.foldlM_cons,
    List.foldlM_nil, Option.bind_eq_bind, first, second, Option.bind_some]
  rfl

private theorem table?_browsersTree (record : Record) :
    (browsersTree record).table? implementationSchema.ofTree = some record.browsers.entries := by
  rw [browsersTree, Tree.table?, Json.mapM_eq_some_iff, List.forall₂_map_left_iff,
    List.forall₂_same]
  intro entry _
  rw [Json.memberOf, Json.string?_spelled, ofTree_implementationTree]
  rfl

/-! ## The records of an answer -/

/-- A specification with a single address, if there is one. -/
def specOfUrl (url : Option String) : Option SpecReference :=
  url.map .url

private theorem specReader_on_optionTree (url : Option String) :
    specReader.on (optionTree textTree url) =
      some (.ok fun fields => { fields with spec := some (specOfUrl url) }) := by
  have reads := Json.optional_reads (Json.value_kept_reads specLevels)
  rw [specReader, Json.Reader.on_map, reads.on_eq]
  cases url with
  | none => rfl
  | some address =>
      have isValue : (textTree address).value? specLevels = some (.text address) := by
        rw [Tree.value?, textTree, Tree.made, Json.string?_spelled]
        rfl
      rw [optionTree, Tree.optional?_of_ne (kind_textTree_ne address), isValue]
      rfl

/-- The candidate that a record is written as. -/
def candidateEntry (record : Record) : Entry where
  name := record.name
  featureId := record.featureId
  baseline := some ⟨record.tier, record.baselineSince, none⟩
  implementations := record.browsers
  spec := specOfUrl record.specUrl

private theorem optional?_baselineTree (record : Record) :
    (baselineTree record).optional? baselineSchema.ofTree =
      some (some ⟨record.tier, record.baselineSince, none⟩) := by
  rw [Tree.optional?_of_ne (by simp [baselineTree, Tree.kind]), ofTree_baselineTree]
  rfl

theorem keyMap_browsersTree (record : Record) :
    ((browsersTree record).table? implementationSchema.ofTree).map KeyMap.ofList =
      some record.browsers := by
  rw [table?_browsersTree, Option.map_some, KeyMap.ofList_entries]

/-- The tree of a record is read as the candidate that the record is written as. -/
theorem ofTree_candidateTree (record : Record) :
    entrySchema.ofTree (candidateTree record) = some (candidateEntry record) := by
  have lawful := entrySchema_isLawful
  -- What has been read after each member.
  let named : EntryFields := ⟨some record.name, none, none, none, none⟩
  let identified : EntryFields := { named with featureId := some record.featureId }
  let dated : EntryFields :=
    { identified with baseline := some (some ⟨record.tier, record.baselineSince, none⟩) }
  let implemented : EntryFields := { dated with implementations := some record.browsers }
  have first : entrySchema.step entrySchema.empty (spelled "name", textTree record.name) =
      some named :=
    step_spelled lawful textReader_reads (.head _) rfl (string?_textTree record.name)
  have second : entrySchema.step named (spelled "feature_id", textTree record.featureId) =
      some identified :=
    step_spelled lawful textReader_reads (.tail _ (.head _)) rfl (string?_textTree record.featureId)
  have third : entrySchema.step identified (spelled "baseline", baselineTree record) = some dated :=
    step_spelled lawful (Json.optional_reads baselineSchema_reads) (.tail _ (.tail _ (.head _))) rfl
      (optional?_baselineTree record)
  have fourth : entrySchema.step dated (spelled "browser_implementations", browsersTree record) =
      some implemented :=
    step_spelled lawful
      (Json.map_reads (Json.table_reads implementationSchema_reads) KeyMap.ofList)
      (.tail _ (.tail _ (.tail _ (.head _)))) rfl (keyMap_browsersTree record)
  have fifth : entrySchema.step implemented (spelled "spec", optionTree textTree record.specUrl) =
      some { implemented with spec := some (specOfUrl record.specUrl) } :=
    lawful.step_of_field (.tail _ (.tail _ (.tail _ (.tail _ (.head _)))))
      (Json.string?_spelled "spec") rfl (specReader_on_optionTree record.specUrl)
  simp only [candidateTree, Json.Schema.ofTree, Json.Schema.stateOf, List.foldlM_cons,
    List.foldlM_nil, Option.bind_eq_bind, first, second, third, fourth, fifth, Option.bind_some]
  rfl

theorem answer_means (records : List Record) :
    schema.ofTree (answerTree records) = some (records.map candidateEntry) := by
  have each : (Tree.list (records.map candidateTree)).list? entrySchema.ofTree =
      some (records.map candidateEntry) := by
    rw [Tree.list?, Json.mapM_eq_some_iff, List.forall₂_map_left_iff, List.forall₂_map_right_iff,
      List.forall₂_same]
    exact fun record _ => ofTree_candidateTree record
  have first : schema.step schema.empty (spelled "data", .list (records.map candidateTree)) =
      some (some (records.map candidateEntry)) :=
    step_spelled schema_isLawful (Json.list_reads entrySchema_reads) (.head _) rfl each
  simp only [answerTree, Json.Schema.ofTree, Json.Schema.stateOf, List.foldlM_cons,
    List.foldlM_nil, Option.bind_eq_bind, first, Option.bind_some]
  rfl

/-- Whether a record is one of those in some answer. -/
def IsObtainable (record : Record) : Prop :=
  ∃ body found, records body = .ok found ∧ record ∈ found

private theorem address?_ne (spec : SpecReference) : spec.address? ≠ some "" := by
  intro isAddress
  cases spec with
  | url address => simpa using List.find?_some isAddress
  | links addresses => simpa using List.find?_some isAddress

/-- An address that is empty is none. -/
theorem IsObtainable.specUrl_ne {record : Record} (obtainable : IsObtainable record) :
    record.specUrl ≠ some "" := by
  obtain ⟨body, found, decodes, isMember⟩ := obtainable
  obtain ⟨candidates, _, rfl⟩ := records_eq_ok_iff_entries.mp decodes
  obtain ⟨entry, _, rfl⟩ := List.mem_map.mp isMember
  intro isEmpty
  obtain ⟨spec, _, isAddress⟩ := Option.bind_eq_some_iff.mp isEmpty
  exact address?_ne spec isAddress

private theorem record_candidateEntry {record : Record} (notEmpty : record.specUrl ≠ some "") :
    (candidateEntry record).record = record := by
  obtain ⟨name, featureId, tier, since, url, browsers⟩ := record
  have sameUrl : (specOfUrl url).bind SpecReference.address? = url := by
    cases url with
    | none => rfl
    | some address =>
        have isFound : address.isEmpty = false := by
          simpa using notEmpty
        simp [specOfUrl, SpecReference.address?, isFound]
  simp only [candidateEntry, Entry.record, sameUrl]
  rfl

/-- **Records that are written as an answer are read back from it**, if they are records of answers:
every one of them, with all its parts, and in their order. -/
theorem records_of_answer {found : List Record}
    (obtainable : ∀ record ∈ found, IsObtainable record) :
    records (answer found).compact = .ok found := by
  have each : found.map (Entry.record ∘ candidateEntry) = found := by
    rw [List.map_congr_left (g := id), List.map_id]
    exact fun record isMember => record_candidateEntry (obtainable record isMember).specUrl_ne
  rw [records_eq_ok_iff (prints_answerTree found).isDocument, recordsOf, answer_means,
    Option.map_some, List.map_map, each]

theorem records_of_grid_answer :
    (∀ record ∈ [gridRecord, gridRecord], IsObtainable record) ∧
      records (answer [gridRecord, gridRecord]).compact = .ok [gridRecord, gridRecord] := by
  have obtainable : ∀ record ∈ [gridRecord, gridRecord], IsObtainable record := by
    intro record isMember
    refine ⟨gridAnswer, [gridRecord], records_gridAnswer, ?_⟩
    simpa using isMember
  exact ⟨obtainable, records_of_answer obtainable⟩

end Response

end WebCompat
