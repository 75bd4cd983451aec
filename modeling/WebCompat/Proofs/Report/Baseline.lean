import Mathlib.Data.List.Forall2
import WebCompat.Proofs.Feature.Response
import WebCompat.Report.Fragment
import WebCompat.Report.Markdown

/-!
The baseline of a feature in the summary and in Markdown. Both are written from the same record, but
each by a condition of its own: the summary has a date if there is one, the paragraphs of Markdown
are written if the tier is known. A candidate without a baseline has neither.

Owns: which baseline a candidate carries in a document; and what of it is shown.
-/

namespace WebCompat

open Json (Tree)

/-! ## What a candidate carries -/

namespace Response

def itemsOf : Tree → List Tree
  | .list items => items
  | _ => []

def candidates (tree : Tree) : List Tree :=
  (tree.given schema.names "data").flatMap itemsOf

/-- The baseline that a candidate carries, where null is none. -/
def carried (candidate : Tree) : List Tree :=
  (candidate.given entrySchema.names "baseline").filter fun value => value.kind ≠ .null

/-- The value of a member that may be null, where null is none. -/
def held (names : List String) (name : String) (tree : Tree) : List Tree :=
  (tree.given names name).filter fun value => value.kind ≠ .null

/-- **A structure holds in a field that may be null just what its tree has there.** -/
theorem map_held {σ α κ : Type} {schema : Json.Schema σ α} {field : Json.Field σ}
    {part : σ → Option (Option κ)} {meaning : Tree → Option κ}
    (fills : schema.Fills field part (Tree.optional? meaning)) (lawful : schema.IsLawful)
    {tree : Tree} {state : σ} (isMade : schema.stateOf tree = some state) :
    (held schema.names field.name tree).map meaning = (part state).join.toList.map some := by
  have given := fills.map_given lawful isMade
  rw [held]
  cases isState : part state with
  | none =>
      rw [isState] at given
      rw [List.map_eq_nil_iff.mp given]
      rfl
  | some inner =>
      rw [isState] at given
      obtain ⟨value, isValue, isOptional⟩ := List.map_eq_singleton_iff.mp given
      rw [isValue]
      by_cases isNull : value.kind = .null
      · cases value with
        | null =>
            cases isOptional
            rfl
        | bool | number | text | list | object => cases isNull
      · rw [Tree.optional?_of_ne isNull, Option.map_eq_some_iff] at isOptional
        obtain ⟨found, isFound, rfl⟩ := isOptional
        simp [isNull, isFound]

/-- A field whose value always fits holds what its value means. -/
theorem exists_of_field_on {σ α : Type} {reader : Json.Reader α} {meaning : Tree → Option α}
    (reads : Json.Reads reader meaning) {name : String} {isGiven : σ → Bool} {set : α → σ → σ}
    {part : σ → Option α} (holds : ∀ value state, part (set value state) = some value) :
    ∀ tree update, (field name isGiven reader set).reader.on tree = some (.ok update) →
      ∃ value, meaning tree = some value ∧ ∀ state, part (update state) = some value := by
  intro tree update isUpdate
  rw [field_on reads, Option.map_eq_some_iff] at isUpdate
  obtain ⟨value, means, same⟩ := isUpdate
  cases same
  exact ⟨value, means, holds value⟩

theorem part_of_sets {σ α β : Type} {other : Json.Field σ} {set : α → σ → σ} {part : σ → Option β}
    (sets : other.Sets set) (kept : ∀ value state, part (set value state) = part state) :
    ∀ update, other.Updates update → ∀ state, part (update state) = part state := by
  intro update isUpdate state
  obtain ⟨value, rfl⟩ := sets update isUpdate
  exact kept value state

private theorem fills_baseline :
    entrySchema.Fills
      (field "baseline" (fun fields => fields.baseline.isSome)
        (Json.optional baselineSchema.reader)
        (fun value fields => { fields with baseline := some value }))
      EntryFields.baseline (Tree.optional? baselineSchema.ofTree) where
  isField := .tail _ (.tail _ (.head _))
  empty := rfl
  isGiven := fun _ => rfl
  own := exists_of_field_on (Json.optional_reads baselineSchema_reads) fun _ _ => rfl
  others := by
    simp only [entrySchema, List.forall_mem_cons]
    refine ⟨fun _ => ?_, fun _ => ?_, fun differs => absurd rfl differs, fun _ => ?_,
      fun _ => part_of_sets sets_specField fun _ _ => rfl,
      fun _ none => absurd none List.not_mem_nil⟩
    all_goals exact part_of_sets sets_field fun _ _ => rfl

private theorem fills_data :
    schema.Fills
      (field "data" Option.isSome (Json.list entrySchema.reader) (fun value _ => some value)) id
      (Tree.list? entrySchema.ofTree) where
  isField := .head _
  empty := rfl
  isGiven := fun _ => rfl
  own := exists_of_field_on (Json.list_reads entrySchema_reads) fun _ _ => rfl
  others := by
    simp only [schema, List.forall_mem_cons]
    exact ⟨fun differs => absurd rfl differs, fun _ none => absurd none List.not_mem_nil⟩

/-- The candidates of an answer are what its entries were read from. -/
theorem forall₂_candidates {tree : Tree} {found : List Entry}
    (means : schema.ofTree tree = some found) :
    List.Forall₂ (fun candidate entry => entrySchema.ofTree candidate = some entry)
      (candidates tree) found := by
  obtain ⟨state, isMade, isBuilt⟩ := Option.bind_eq_some_iff.mp means
  have given : (tree.given schema.names "data").map (Tree.list? entrySchema.ofTree) =
      state.toList.map some := fills_data.map_given schema_isLawful isMade
  have isFound : found = state.getD [] := (Option.some.inj isBuilt).symm
  rw [candidates, isFound]
  cases state with
  | none =>
      rw [List.map_eq_nil_iff.mp given]
      exact .nil
  | some entries =>
      obtain ⟨value, isValue, isList⟩ := List.map_eq_singleton_iff.mp given
      rw [isValue]
      cases value with
      | list items => simpa [itemsOf] using Json.mapM_eq_some_iff.mp isList
      | null | bool | number | text | object => cases isList

theorem exists_of_built {fields : EntryFields} {entry : Entry}
    (isBuilt : entrySchema.built fields = some entry) :
    ∃ name featureId, entry =
      ⟨name, featureId, fields.baseline.join, fields.implementations.getD .empty,
        fields.spec.join⟩ := by
  obtain ⟨name, featureId, _, _, _⟩ := fields
  cases name with
  | none => cases isBuilt
  | some name =>
      cases featureId with
      | none => cases isBuilt
      | some featureId => exact ⟨name, featureId, (Option.some.inj isBuilt).symm⟩

/-- The baseline of an entry is what its candidate carries. -/
theorem map_carried {candidate : Tree} {entry : Entry}
    (means : entrySchema.ofTree candidate = some entry) :
    (carried candidate).map baselineSchema.ofTree = entry.baseline.toList.map some := by
  obtain ⟨state, isMade, isBuilt⟩ := Option.bind_eq_some_iff.mp means
  obtain ⟨name, featureId, rfl⟩ := exists_of_built isBuilt
  exact map_held fills_baseline entrySchema_isLawful isMade

end Response

/-! ## What is shown of it -/

namespace Markdown

/-- The block on browser support up to the baseline. -/
def implementations (record : Record) : String :=
  "\n\n**Browser Support:**\n\n"
    ++ String.join (record.browsers.entries.map fun entry => implementationLine entry.1 entry.2)

/-- The paragraph on the status of a baseline. -/
def statusLine (tier : Tier) : String :=
  tierIcon tier ++ " **Baseline Status:** " ++ tier.name ++ "\n\n"

/-- The paragraph on the date of a baseline. -/
def sinceLine (since : String) : String :=
  "📅 **Available Since:** " ++ since ++ "\n\n"

theorem support_eq_append (record : Record) :
    support (some record) = implementations record ++ String.join (baselineLines record) := by
  unfold support implementations
  dsimp only
  rw [String.join_append, String.append_assoc]

theorem support_of_unknown {record : Record} (isUnknown : record.tier = .unknown) :
    support (some record) = implementations record := by
  rw [support_eq_append, baselineLines, if_pos isUnknown, String.join_nil, String.append_empty]

/-- The Markdown of a known tier ends with the paragraphs on it. -/
theorem support_of_known {record : Record} (isKnown : record.tier ≠ .unknown) :
    support (some record) = implementations record ++ statusLine record.tier ++
      ((record.baselineSince.map Date.text).map sinceLine).getD "" := by
  have dated : String.join (record.baselineSince.toList.map fun since =>
      "📅 **Available Since:** " ++ since.text ++ "\n\n") =
      ((record.baselineSince.map Date.text).map sinceLine).getD "" := by
    cases record.baselineSince with
    | none => exact String.join_nil
    | some since =>
        rw [Option.toList_some, List.map_singleton, String.join_cons, String.join_nil,
          String.append_empty]
        rfl
  rw [support_eq_append, baselineLines, if_neg isKnown, String.join_cons, dated,
    ← String.append_assoc, statusLine]

end Markdown

/-- What the summary and the Markdown of a record show of the baseline that its candidate carries:
the same status and the same date, but the status `unknown` and its date are left out of
Markdown. -/
structure ShowsBaseline (baseline : Option Baseline) (record : Record) : Prop where
  tier : (Summary.ofRecord record).tier = (baseline.map Baseline.status).getD .unknown
  since : (Summary.ofRecord record).availableSince = (baseline.bind Baseline.lowDate).map Date.text
  known : (∃ carried ∈ baseline, carried.status ≠ .unknown) →
    Markdown.support (some record) = Markdown.implementations record
      ++ Markdown.statusLine (Summary.ofRecord record).tier
      ++ ((Summary.ofRecord record).availableSince.map Markdown.sinceLine).getD ""
  hidden : (∀ carried ∈ baseline, carried.status = .unknown) →
    Markdown.support (some record) = Markdown.implementations record
  without : (Summary.ofRecord record).tier = .unknown ∧
      (Summary.ofRecord record).availableSince = none ↔
    ∀ carried ∈ baseline, carried.status = .unknown ∧ carried.lowDate = none

/-- The record of a candidate shows its baseline. -/
theorem showsBaseline_record (entry : Entry) : ShowsBaseline entry.baseline entry.record where
  tier := rfl
  since := rfl
  known := by
    rintro ⟨carried, isCarried, isKnown⟩
    apply Markdown.support_of_known
    rwa [Entry.record, Option.mem_def.mp isCarried]
  hidden := by
    intro areUnknown
    apply Markdown.support_of_unknown
    rw [Entry.record]
    cases isCarried : entry.baseline with
    | none => rfl
    | some carried => exact areUnknown carried isCarried
  without := by
    rw [Summary.ofRecord, Entry.record]
    cases entry.baseline with
    | none => simp
    | some carried => simp

namespace Response

/-- **The summary and the Markdown of a record agree on its baseline**, for each of the candidates in
a document: on the status unless it is `unknown`, and then on the date. -/
theorem decoded_records_show_baseline {body : String} {found : List Record}
    (decodes : records body = .ok found) :
    ∃ tree : Tree, tree.IsDocument body ∧
      List.Forall₂ (fun candidate record => ∃ baseline : Option Baseline,
          (carried candidate).map baselineSchema.ofTree = baseline.toList.map some ∧
            ShowsBaseline baseline record)
        (candidates tree) found := by
  obtain ⟨tree, isDocument, means⟩ := exists_of_records decodes
  obtain ⟨entries, isAnswer, rfl⟩ := Option.map_eq_some_iff.mp means
  refine ⟨tree, isDocument, List.forall₂_map_right_iff.mpr ?_⟩
  refine (forall₂_candidates isAnswer).imp fun candidate entry isEntry => ?_
  exact ⟨entry.baseline, map_carried isEntry, showsBaseline_record entry⟩

theorem decoded_grid_shows_baseline :
    records gridAnswer = .ok [gridRecord] ∧
      ∃ tree : Tree, tree.IsDocument gridAnswer ∧
        List.Forall₂ (fun candidate record => ∃ baseline : Option Baseline,
            (carried candidate).map baselineSchema.ofTree = baseline.toList.map some ∧
              ShowsBaseline baseline record)
          (candidates tree) [gridRecord] :=
  ⟨records_gridAnswer, decoded_records_show_baseline records_gridAnswer⟩

/-- An answer whose candidate carries a baseline of which nothing but the date is known. -/
def datedAnswer : String :=
  "\x7b\"data\":[\x7b\"name\":\"Grid\",\"feature_id\":\"grid\","
    ++ "\"baseline\":\x7b\"status\":\"unknown\",\"low_date\":\"2015-07-29\"\x7d\x7d]\x7d"

/-- The date is in the summary, but Markdown has no paragraph on the baseline. -/
theorem dated_baseline_is_left_out :
    (entries datedAnswer).toOption.map (fun found => found.map Entry.baseline) =
        some [some ⟨.unknown, some ⟨2015, 7, 29, by decide⟩, none⟩] ∧
      (records datedAnswer).toOption.map (fun found => found.map fun record =>
          ((Summary.ofRecord record).availableSince, Markdown.support (some record))) =
        some [(some "2015-07-29", "\n\n**Browser Support:**\n\n")] := by
  decide +kernel

end Response

end WebCompat
