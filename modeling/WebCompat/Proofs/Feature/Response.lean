import WebCompat.Feature.Response
import WebCompat.Proofs.Json.Fields
import WebCompat.Proofs.Json.Whole
import WebCompat.Proofs.Result

/-!
Answers of the feature service in trees. Every structure of an answer is read from the trees that
it is, so that the records in a document are those that its tree means.

Owns: that the schemas of an answer go by trees, and what a document has to do with its records.
-/

namespace WebCompat

deriving instance DecidableEq for KeyMap
deriving instance DecidableEq for Record

namespace Response

open Json (Reader Reads Tree)

theorem field_reads {σ α : Type} {reader : Reader α} {meaning : Tree → Option α}
    (reads : Reads reader meaning) (name : String) (isGiven : σ → Bool) (set : α → σ → σ) :
    Reads (field name isGiven reader set).reader (field name isGiven reader set).reader.on :=
  (Json.map_reads reads fun value => Except.ok (set value)).on

theorem field_on {σ α : Type} {reader : Reader α} {meaning : Tree → Option α}
    (reads : Reads reader meaning) (name : String) (isGiven : σ → Bool) (set : α → σ → σ)
    (tree : Tree) :
    (field name isGiven reader set).reader.on tree =
      (meaning tree).map fun value => .ok (set value) := by
  rw [field, Json.Reader.on_map, reads.on_eq]

def dateOf (tree : Tree) : Option Date :=
  tree.string?.bind fun text => (Date.ofString text).toOption

theorem dateReader_reads : Reads dateReader dateOf := by
  have reads := Json.judge_reads (Json.text_reads "a formatted date string") fun text =>
    (Date.ofString text).mapError fun fault => Json.Cause.unreadable fault.message
  simp only [Json.Schema.toOption_mapError] at reads
  exact reads

theorem textReader_reads : Reads textReader Tree.string? :=
  Json.text_reads "a string"

theorem implementationSchema_reads :
    Reads implementationSchema.reader implementationSchema.ofTree := by
  apply Json.Schema.reader_reads
  simp only [implementationSchema, List.forall_mem_cons]
  exact ⟨field_reads (Json.oneOf_reads _) _ _ _,
    field_reads (Json.optional_reads textReader_reads) _ _ _,
    field_reads (Json.optional_reads dateReader_reads) _ _ _, nofun⟩

theorem baselineSchema_reads : Reads baselineSchema.reader baselineSchema.ofTree := by
  apply Json.Schema.reader_reads
  simp only [baselineSchema, List.forall_mem_cons]
  exact ⟨field_reads (Json.oneOf_reads _) _ _ _,
    field_reads (Json.optional_reads dateReader_reads) _ _ _,
    field_reads (Json.optional_reads dateReader_reads) _ _ _, nofun⟩

theorem specReader_reads : Reads specReader specReader.on :=
  (Json.map_reads (Json.optional_reads (Json.value_kept_reads specLevels)) _).on

theorem entrySchema_reads : Reads entrySchema.reader entrySchema.ofTree := by
  apply Json.Schema.reader_reads
  simp only [entrySchema, List.forall_mem_cons]
  exact ⟨field_reads textReader_reads _ _ _, field_reads textReader_reads _ _ _,
    field_reads (Json.optional_reads baselineSchema_reads) _ _ _,
    field_reads (Json.map_reads (Json.table_reads implementationSchema_reads) _) _ _ _,
    specReader_reads, nofun⟩

/-- Answers are read by their trees: what stands between the tokens does not count. -/
theorem schema_reads : Reads schema.reader schema.ofTree := by
  apply Json.Schema.reader_reads
  simp only [schema, List.forall_mem_cons]
  exact ⟨field_reads (Json.list_reads entrySchema_reads) _ _ _, nofun⟩

/-! ## Laws of the schemas -/

theorem sets_field {σ α : Type} {reader : Reader α} {name : String} {isGiven : σ → Bool}
    {set : α → σ → σ} : (field name isGiven reader set).Sets set := by
  rintro update ⟨tree, isUpdate⟩
  rw [field, Json.Reader.on_map, Option.map_eq_some_iff] at isUpdate
  obtain ⟨value, _, same⟩ := isUpdate
  cases same
  exact ⟨value, rfl⟩

private theorem isGiven_of_updates {σ α : Type} {reader : Reader α} {name : String}
    {isGiven : σ → Bool}
    {set : α → σ → σ} (given : ∀ value state, isGiven (set value state) = true) :
    ∀ update, (field name isGiven reader set).Updates update → ∀ state,
      (field name isGiven reader set).isGiven (update state) = true := by
  intro update isUpdate state
  obtain ⟨value, rfl⟩ := sets_field update isUpdate
  exact given value state

theorem implementationSchema_isLawful : implementationSchema.IsLawful where
  distinct := by decide
  empty := by simp [implementationSchema, field]
  given := by
    simp only [implementationSchema, List.forall_mem_cons]
    refine ⟨?_, ?_, ?_, nofun⟩
    all_goals exact isGiven_of_updates fun _ _ => rfl
  independent := by
    simp only [implementationSchema, List.pairwise_cons, List.forall_mem_cons]
    refine ⟨⟨?_, ?_, nofun⟩, ⟨?_, nofun⟩, nofun, .nil⟩
    all_goals
      exact .of_sets sets_field sets_field (fun _ _ _ => rfl) (fun _ _ => rfl) fun _ _ => rfl

theorem baselineSchema_isLawful : baselineSchema.IsLawful where
  distinct := by decide
  empty := by simp [baselineSchema, field]
  given := by
    simp only [baselineSchema, List.forall_mem_cons]
    refine ⟨?_, ?_, ?_, nofun⟩
    all_goals exact isGiven_of_updates fun _ _ => rfl
  independent := by
    simp only [baselineSchema, List.pairwise_cons, List.forall_mem_cons]
    refine ⟨⟨?_, ?_, nofun⟩, ⟨?_, nofun⟩, nofun, .nil⟩
    all_goals
      exact .of_sets sets_field sets_field (fun _ _ _ => rfl) (fun _ _ => rfl) fun _ _ => rfl

/-- The field of a specification, whose value may have none of the forms. -/
def specField : Json.Field EntryFields :=
  ⟨"spec", fun fields => fields.spec.isSome, specReader⟩

theorem sets_specField :
    specField.Sets fun spec (fields : EntryFields) => { fields with spec := some spec } := by
  rintro update ⟨tree, isUpdate⟩
  rw [specField, specReader, Json.Reader.on_map, Option.map_eq_some_iff] at isUpdate
  obtain ⟨value, _, same⟩ := isUpdate
  cases isSpec : specOf value with
  | error cause =>
      rw [isSpec] at same
      cases same
  | ok spec =>
      rw [isSpec] at same
      cases same
      exact ⟨spec, rfl⟩

/-- The fields of a candidate do not get in the way of each other. -/
theorem entrySchema_isLawful : entrySchema.IsLawful where
  distinct := by decide
  empty := by simp [entrySchema, field]
  given := by
    simp only [entrySchema, List.forall_mem_cons]
    refine ⟨?_, ?_, ?_, ?_, ?spec, nofun⟩
    case spec =>
      intro update isUpdate state
      obtain ⟨spec, rfl⟩ := sets_specField update isUpdate
      rfl
    all_goals exact isGiven_of_updates fun _ _ => rfl
  independent := by
    simp only [entrySchema, List.pairwise_cons, List.forall_mem_cons]
    refine ⟨⟨?_, ?_, ?_, ?name, nofun⟩, ⟨?_, ?_, ?featureId, nofun⟩, ⟨?_, ?baseline, nofun⟩,
      ⟨?implementations, nofun⟩, nofun, .nil⟩
    case name | featureId | baseline | implementations =>
      exact .of_sets sets_field sets_specField (fun _ _ _ => rfl) (fun _ _ => rfl) fun _ _ => rfl
    all_goals
      exact .of_sets sets_field sets_field (fun _ _ _ => rfl) (fun _ _ => rfl) fun _ _ => rfl

theorem schema_isLawful : schema.IsLawful where
  distinct := by decide
  empty := by simp [schema, field]
  given := by
    simp only [schema, List.forall_mem_cons]
    exact ⟨isGiven_of_updates fun _ _ => rfl, nofun⟩
  independent := List.pairwise_singleton _ _

/-! ## Records of documents -/

/-- The records of an answer that is a tree. -/
def recordsOf (tree : Tree) : Option (List Record) :=
  (schema.ofTree tree).map fun candidates => candidates.map Entry.record

section Documents

variable {body : String} {found : List Record}

theorem records_eq_ok_iff_entries :
    records body = .ok found ↔
      ∃ candidates, entries body = .ok candidates ∧ candidates.map Entry.record = found :=
  map_eq_ok_iff

/-- **The records in a document are those that its tree means.** -/
theorem records_eq_ok_iff {tree : Tree} (isDocument : tree.IsDocument body) :
    records body = .ok found ↔ recordsOf tree = some found := by
  rw [records_eq_ok_iff_entries, recordsOf, Option.map_eq_some_iff]
  simp only [entries, Json.read_eq_ok_iff schema_reads isDocument]

/-- A body with records is a document, and its tree is an answer with these records. -/
theorem exists_of_records (decodes : records body = .ok found) :
    ∃ tree : Tree, tree.IsDocument body ∧ recordsOf tree = some found := by
  obtain ⟨candidates, isRead, same⟩ := records_eq_ok_iff_entries.mp decodes
  obtain ⟨tree, isDocument, means⟩ := Json.exists_of_read schema_reads isRead
  exact ⟨tree, isDocument, by rw [recordsOf, means, Option.map_some, same]⟩

theorem isContainer_of_ofTree {σ α : Type} {schema : Json.Schema σ α} {tree : Tree} {value : α}
    (means : schema.ofTree tree = some value) : tree.IsContainer := by
  cases tree with
  | list => exact .inl rfl
  | object => exact .inr rfl
  | null | bool | number | text => cases means

/-- An answer is an object or a list, never a scalar. -/
theorem isContainer_of_recordsOf {tree : Tree} (means : recordsOf tree = some found) :
    tree.IsContainer := by
  obtain ⟨candidates, isAnswer, _⟩ := Option.map_eq_some_iff.mp means
  exact isContainer_of_ofTree isAnswer

theorem records_eq_ok_of_toOption (isFound : (records body).toOption = some found) :
    records body = .ok found :=
  eq_ok_of_toOption isFound

end Documents

/-! ## An answer -/

/-- An answer with a single candidate. -/
def gridAnswer : String :=
  "\x7b\"data\":[\x7b\"name\":\"\\\"\\u0001\",\"feature_id\":\"grid\"," ++
    "\"baseline\":\x7b\"status\":\"newly\",\"low_date\":\"2020-01-15\"\x7d," ++
    "\"browser_implementations\":\x7b\"a\":\x7b\x7d\x7d\x7d]\x7d"

/-- The record of the candidate. -/
def gridRecord : Record where
  name := "\"\x01"
  featureId := "grid"
  tier := .newly
  baselineSince := some ⟨2020, 1, 15, by decide⟩
  specUrl := none
  browsers := .ofList [("a", ⟨.unknown, none, none⟩)]

theorem records_gridAnswer : records gridAnswer = .ok [gridRecord] :=
  records_eq_ok_of_toOption (by decide +kernel)

end Response

end WebCompat
