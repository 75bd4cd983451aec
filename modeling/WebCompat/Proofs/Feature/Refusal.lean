import WebCompat.Proofs.Feature.Response

/-!
Answers that are refused: those that are cut or padded, and those with a value of another kind where
a list, a table, a text or a structure has to be.

Owns: what an answer that could be read looks like, so that any other is refused.
-/

namespace WebCompat.Response

open Json (Reader Reads Tree)

/-! ## Cut and padded answers -/

/-- **An answer that is cut or padded is never taken for a complete one.** Without the white space
at its end, a body that decodes does not decode if it is cut anywhere, and it does not decode if
anything but white space is behind it. -/
theorem cut_or_padded_is_refused {body : String} {found : List Record}
    (decodes : records body = .ok found) :
    (∀ cut : String, cut.toList <+: (Json.withoutTrailingSpace body).toList →
        cut ≠ Json.withoutTrailingSpace body → ∃ error, records cut = .error error) ∧
      ∀ padding : String, (∃ c ∈ padding.toList, Json.isSpace c = false) →
        ∃ error, records (Json.withoutTrailingSpace body ++ padding) = .error error := by
  obtain ⟨tree, isDocument, means⟩ := exists_of_records decodes
  obtain ⟨blank, isWhole, isBlank⟩ := Json.exists_append_withoutTrailingSpace body
  have refused : ∀ text : String, (∀ other : List Record, records text ≠ .ok other) →
      ∃ error, records text = .error error := by
    intro text fails
    cases isResult : records text with
    | error error => exact ⟨error, rfl⟩
    | ok other => exact absurd isResult (fails other)
  constructor
  -- A cut that decodes would be a document itself, with nothing but white space behind it.
  · rintro cut ⟨left, split⟩ isProper
    refine refused cut fun other alsoDecodes => isProper ?_
    obtain ⟨part, isPart, partMeans⟩ := exists_of_records alsoDecodes
    have isCut : cut ++ String.ofList left = Json.withoutTrailingSpace body := by
      rw [← String.toList_inj, String.toList_append, String.toList_ofList, split]
    have isLonger : tree.IsDocument (cut ++ String.ofList left) := by
      rw [isCut]
      rw [← isWhole] at isDocument
      exact isDocument.of_append_blank isBlank
    have leftBlank := Json.Tree.isBlank_of_isDocument_append (isContainer_of_recordsOf partMeans)
      isPart isLonger
    rw [String.toList_ofList] at leftBlank
    have isEmpty := Json.eq_nil_of_append_eq_withoutTrailingSpace split leftBlank
    rw [← isCut, isEmpty, String.ofList_nil, String.append_empty]
  -- In a padded body that decodes, the padding is behind a document, so it is white space.
  · rintro padding ⟨c, member, notSpace⟩
    refine refused _ fun other alsoDecodes => ?_
    obtain ⟨padded, isPadded, _⟩ := exists_of_records alsoDecodes
    rw [← isWhole] at isDocument
    have paddingBlank := Json.Tree.isBlank_of_isDocument_append (isContainer_of_recordsOf means)
      (isDocument.of_append_blank isBlank) isPadded
    rw [paddingBlank c member] at notSpace
    cases notSpace

/-- The cut is within an escape of a member that no structure knows. -/
theorem cut_or_padded_empty_is_refused :
    records "\x7b\"x\":[1e5,\"\\u0041\"]\x7d\n" = .ok [] ∧
      (∃ error, records "\x7b\"x\":[1e5,\"\\u00" = .error error) ∧
        ∃ error,
          records (Json.withoutTrailingSpace "\x7b\"x\":[1e5,\"\\u0041\"]\x7d\n" ++ "\n]") =
            .error error := by
  have decodes : records "\x7b\"x\":[1e5,\"\\u0041\"]\x7d\n" = .ok [] :=
    records_eq_ok_of_toOption (by decide +kernel)
  have refused := cut_or_padded_is_refused decodes
  exact ⟨decodes, refused.1 _ (by decide +kernel) (by decide +kernel),
    refused.2 _ ⟨']', by decide, by decide⟩⟩

/-! ## Answers of another shape -/

/-- Whether a tree is a list whose items are all of a kind. -/
def IsListOf (isItem : Tree → Prop) (tree : Tree) : Prop :=
  ∃ items, tree = .list items ∧ ∀ item ∈ items, isItem item

/-- Whether a tree is an object whose values are all of a kind. -/
def IsTableOf (isValue : Tree → Prop) (tree : Tree) : Prop :=
  ∃ members, tree = .object members ∧ ∀ member ∈ members, isValue member.2

/-- The kinds of values that a candidate has, if the structures in it are of a given kind. -/
structure EntryShape (isStructure : Tree → Prop) (tree : Tree) : Prop where
  structured : isStructure tree
  nameGiven : tree.given entrySchema.names "name" ≠ []
  name : ∀ value ∈ tree.given entrySchema.names "name", value.kind = .text
  featureIdGiven : tree.given entrySchema.names "feature_id" ≠ []
  featureId : ∀ value ∈ tree.given entrySchema.names "feature_id", value.kind = .text
  baseline : ∀ value ∈ tree.given entrySchema.names "baseline",
    value.kind = .null ∨ isStructure value
  implementations : ∀ value ∈ tree.given entrySchema.names "browser_implementations",
    IsTableOf isStructure value

/-- The kinds of values that an answer has, if the structures in it are of a given kind. -/
structure AnswerShape (isStructure : Tree → Prop) (tree : Tree) : Prop where
  structured : isStructure tree
  candidates : ∀ value ∈ tree.given schema.names "data", IsListOf (EntryShape isStructure) value

/-- Every value given for a field means something. -/
theorem exists_of_mem_given {σ α β : Type} {schema : Json.Schema σ α} (lawful : schema.IsLawful)
    {tree : Tree} {state : σ} (isMade : schema.stateOf tree = some state) {reader : Reader β}
    {meaning : Tree → Option β} (reads : Reads reader meaning) {name : String} {isGiven : σ → Bool}
    {set : β → σ → σ} (isField : field name isGiven reader set ∈ schema.fields) {value : Tree}
    (isValue : value ∈ tree.given schema.names name) : ∃ meant, meaning value = some meant := by
  obtain ⟨update, isUpdate⟩ := Json.Schema.on_of_mem_given lawful isMade isField isValue
  rw [field_on reads, Option.map_eq_some_iff] at isUpdate
  obtain ⟨meant, means, _⟩ := isUpdate
  exact ⟨meant, means⟩

theorem kind_of_string? {tree : Tree} {text : String} (isText : tree.string? = some text) :
    tree.kind = .text := by
  cases tree with
  | text => rfl
  | null | bool | number | list | object => cases isText

theorem isListOf_of_list? {α : Type} {meaning : Tree → Option α} {isItem : Tree → Prop}
    (fits : ∀ item meant, meaning item = some meant → isItem item) {tree : Tree} {values : List α}
    (isList : tree.list? meaning = some values) : IsListOf isItem tree := by
  cases tree with
  | list items =>
      refine ⟨items, rfl, fun item isMember => ?_⟩
      obtain ⟨meant, means⟩ := Json.exists_of_mem_of_mapM isList item isMember
      exact fits item meant means
  | null | bool | number | text | object => cases isList

theorem isTableOf_of_table? {α : Type} {meaning : Tree → Option α} {isValue : Tree → Prop}
    (fits : ∀ value meant, meaning value = some meant → isValue value) {tree : Tree}
    {entries : List (String × α)} (isTable : tree.table? meaning = some entries) :
    IsTableOf isValue tree := by
  cases tree with
  | object members =>
      refine ⟨members, rfl, fun member isMember => ?_⟩
      obtain ⟨entry, isEntry⟩ := Json.exists_of_mem_of_mapM isTable member isMember
      obtain ⟨_, _, named⟩ := Option.bind_eq_some_iff.mp isEntry
      obtain ⟨meant, means, _⟩ := Option.map_eq_some_iff.mp named
      exact fits member.2 meant means
  | null | bool | number | text | list => cases isTable

theorem isContainer_of_optional? {σ α : Type} {schema : Json.Schema σ α} {tree : Tree}
    {value : Option α} (means : tree.optional? schema.ofTree = some value) :
    tree.kind = .null ∨ tree.IsContainer := by
  by_cases isNull : tree.kind = .null
  · exact .inl isNull
  · rw [Tree.optional?_of_ne isNull, Option.map_eq_some_iff] at means
    obtain ⟨other, isOther, _⟩ := means
    exact .inr (isContainer_of_ofTree isOther)

private theorem isGiven_of_built {fields : EntryFields} {entry : Entry}
    (isBuilt : entrySchema.built fields = some entry) :
    fields.name.isSome = true ∧ fields.featureId.isSome = true := by
  obtain ⟨name, featureId, _, _, _⟩ := fields
  cases name with
  | none => cases isBuilt
  | some name =>
      cases featureId with
      | none => cases isBuilt
      | some featureId => exact ⟨rfl, rfl⟩

/-- What is read as a candidate has the shape of one. -/
theorem entryShape_of_ofTree {tree : Tree} {entry : Entry}
    (means : entrySchema.ofTree tree = some entry) : EntryShape Tree.IsContainer tree := by
  obtain ⟨state, isMade, isBuilt⟩ := Option.bind_eq_some_iff.mp means
  have lawful := entrySchema_isLawful
  have given := isGiven_of_built isBuilt
  constructor
  case structured => exact isContainer_of_ofTree means
  case nameGiven =>
    obtain ⟨value, isValue⟩ := Json.Schema.exists_mem_given lawful isMade (.head _) given.1
    exact List.ne_nil_of_mem isValue
  case featureIdGiven =>
    obtain ⟨value, isValue⟩ :=
      Json.Schema.exists_mem_given lawful isMade (.tail _ (.head _)) given.2
    exact List.ne_nil_of_mem isValue
  case name =>
    intro value isValue
    obtain ⟨_, isText⟩ := exists_of_mem_given lawful isMade textReader_reads (.head _) isValue
    exact kind_of_string? isText
  case featureId =>
    intro value isValue
    obtain ⟨_, isText⟩ :=
      exists_of_mem_given lawful isMade textReader_reads (.tail _ (.head _)) isValue
    exact kind_of_string? isText
  case baseline =>
    intro value isValue
    obtain ⟨_, isBaseline⟩ := exists_of_mem_given lawful isMade
      (Json.optional_reads baselineSchema_reads) (.tail _ (.tail _ (.head _))) isValue
    exact isContainer_of_optional? isBaseline
  case implementations =>
    intro value isValue
    obtain ⟨_, isMap⟩ := exists_of_mem_given lawful isMade
      (Json.map_reads (Json.table_reads implementationSchema_reads) KeyMap.ofList)
      (.tail _ (.tail _ (.tail _ (.head _)))) isValue
    obtain ⟨entries, isTable, _⟩ := Option.map_eq_some_iff.mp isMap
    exact isTableOf_of_table? (fun _ _ => isContainer_of_ofTree) isTable

/-- What is read as an answer has the shape of one. -/
theorem answerShape_of_ofTree {tree : Tree} {candidates : List Entry}
    (means : schema.ofTree tree = some candidates) : AnswerShape Tree.IsContainer tree := by
  obtain ⟨state, isMade, _⟩ := Option.bind_eq_some_iff.mp means
  constructor
  case structured => exact isContainer_of_ofTree means
  case candidates =>
    intro value isValue
    obtain ⟨_, isList⟩ := exists_of_mem_given schema_isLawful isMade
      (Json.list_reads entrySchema_reads) (.head _) isValue
    exact isListOf_of_list? (fun _ _ => entryShape_of_ofTree) isList

/-- **An answer of another shape is refused**, where the structures in it may be objects or lists:
the document that decodes is of one tree only, and that tree has the shape of an answer. -/
theorem decoded_answer_has_shape {body : String} {found : List Record}
    (decodes : records body = .ok found) :
    ∃ tree : Tree, tree.IsDocument body ∧ AnswerShape Tree.IsContainer tree ∧
      ∀ other : Tree, other.IsDocument body → other = tree := by
  obtain ⟨tree, isDocument, means⟩ := exists_of_records decodes
  obtain ⟨candidates, isAnswer, _⟩ := Option.map_eq_some_iff.mp means
  exact ⟨tree, isDocument, answerShape_of_ofTree isAnswer,
    fun other alsoDocument => Tree.eq_of_isDocument alsoDocument isDocument⟩

theorem decoded_grid_has_shape :
    records gridAnswer = .ok [gridRecord] ∧
      ∃ tree : Tree, tree.IsDocument gridAnswer ∧ AnswerShape Tree.IsContainer tree ∧
        ∀ other : Tree, other.IsDocument gridAnswer → other = tree :=
  ⟨records_gridAnswer, decoded_answer_has_shape records_gridAnswer⟩

/-- That a structure may be a list is no matter of form: a list without items is an answer without
candidates. -/
theorem list_taken_for_answer :
    records "[]" = .ok [] ∧ (Tree.list []).IsDocument "[]" ∧
      ¬ AnswerShape (fun tree => tree.kind = .object) (.list []) := by
  refine ⟨records_eq_ok_of_toOption (by decide +kernel), by decide, ?_⟩
  intro shape
  cases shape.structured

end WebCompat.Response
