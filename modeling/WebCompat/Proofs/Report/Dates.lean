import WebCompat.Proofs.Calendar.Date
import WebCompat.Proofs.Report.Baseline

/-!
Dates from an answer to what is shown of them. A date stands in an answer as a text, with white
space, signs and zeros as it may have them, and it is written in one way only: in the record, in the
summary and in Markdown alike.

Owns: where the dates of a candidate stand in a document; by which text each of them is shown; and
that this text is read as the same day.
-/

namespace WebCompat

open Json (Piece Tree Value)

/-! ## How dates are shown -/

/-- Whether a text is read as a day of the calendar for which another text is written, which is then
read as the same day. -/
def Date.IsShownAs (text shown : String) : Prop :=
  ∃ date : Date, Date.ofString text = .ok date ∧
    Calendar.IsGregorian date.year date.month date.day ∧
      shown = date.text ∧ Date.ofString shown = .ok date

theorem Date.isShownAs_text {text : String} {date : Date} (isRead : Date.ofString text = .ok date) :
    Date.IsShownAs text date.text :=
  ⟨date, isRead, date.isGregorian, rfl, date.ofString_text⟩

/-- The values that an object has under a name. -/
def Json.Value.named (name : String) : Value → List Value
  | .object members => SpecReference.membersNamed name members
  | _ => []

theorem Json.Value.ofDate?_eq_ofText? (date : Option Date) :
    Value.ofDate? date = Value.ofText? (date.map Date.text) := by
  cases date <;> rfl

/-- Whether the date of a baseline is shown by a text wherever a record is shown, in Markdown if its
tier is known. -/
structure ShowsSince (record : Record) (shown : Option String) : Prop where
  inRecord : record.toValue.named "baseline_since" = [Value.ofText? shown]
  inSummary : (Summary.ofRecord record).availableSince = shown
  inFragment : (Summary.ofRecord record).toValue.named "available_since" = [Value.ofText? shown]
  inMarkdown : record.tier ≠ .unknown →
    Markdown.support (some record) = Markdown.implementations record
      ++ Markdown.statusLine record.tier ++ (shown.map Markdown.sinceLine).getD ""

/-- The date of a baseline is shown everywhere by its text. -/
theorem showsSince_text (record : Record) :
    ShowsSince record (record.baselineSince.map Date.text) where
  inRecord := by
    rw [← Json.Value.ofDate?_eq_ofText?]
    rfl
  inSummary := rfl
  inFragment := rfl
  inMarkdown := Markdown.support_of_known

private theorem named_date_toValue (implementation : Implementation) :
    implementation.toValue.named "date" =
      [Value.ofText? (implementation.date.map Date.text)] := by
  rw [← Json.Value.ofDate?_eq_ofText?]
  rfl

/-! ## Where dates stand -/

namespace Response

/-- The dates of the baseline that a candidate carries, under one of their names. -/
def baselineDates (name : String) (candidate : Tree) : List Tree :=
  (carried candidate).flatMap (held baselineSchema.names name)

def membersOf : Tree → List (List Piece × Tree)
  | .object members => members
  | _ => []

/-- The implementations that a candidate carries, by the identifiers of the browsers. -/
def carriedImplementations (candidate : Tree) : List (List Piece × Tree) :=
  (candidate.given entrySchema.names "browser_implementations").flatMap membersOf

/-- The date of an implementation, if there is one. -/
def implementationDates (implementation : Tree) : List Tree :=
  held implementationSchema.names "date" implementation

/-! ## Dates in fields -/

private theorem fills_lowDate :
    baselineSchema.Fills
      (field "low_date" (fun fields => fields.lowDate.isSome) (Json.optional dateReader)
        (fun value fields => { fields with lowDate := some value }))
      BaselineFields.lowDate (Tree.optional? dateOf) where
  isField := .tail _ (.head _)
  empty := rfl
  isGiven := fun _ => rfl
  own := exists_of_field_on (Json.optional_reads dateReader_reads) fun _ _ => rfl
  others := by
    simp only [baselineSchema, List.forall_mem_cons]
    refine ⟨fun _ => ?_, fun differs => absurd rfl differs, fun _ => ?_,
      fun _ none => absurd none List.not_mem_nil⟩
    all_goals exact part_of_sets sets_field fun _ _ => rfl

private theorem fills_highDate :
    baselineSchema.Fills
      (field "high_date" (fun fields => fields.highDate.isSome) (Json.optional dateReader)
        (fun value fields => { fields with highDate := some value }))
      BaselineFields.highDate (Tree.optional? dateOf) where
  isField := .tail _ (.tail _ (.head _))
  empty := rfl
  isGiven := fun _ => rfl
  own := exists_of_field_on (Json.optional_reads dateReader_reads) fun _ _ => rfl
  others := by
    simp only [baselineSchema, List.forall_mem_cons]
    refine ⟨fun _ => ?_, fun _ => ?_, fun differs => absurd rfl differs,
      fun _ none => absurd none List.not_mem_nil⟩
    all_goals exact part_of_sets sets_field fun _ _ => rfl

private theorem fills_date :
    implementationSchema.Fills
      (field "date" (fun fields => fields.date.isSome) (Json.optional dateReader)
        (fun value fields => { fields with date := some value }))
      ImplementationFields.date (Tree.optional? dateOf) where
  isField := .tail _ (.tail _ (.head _))
  empty := rfl
  isGiven := fun _ => rfl
  own := exists_of_field_on (Json.optional_reads dateReader_reads) fun _ _ => rfl
  others := by
    simp only [implementationSchema, List.forall_mem_cons]
    refine ⟨fun _ => ?_, fun _ => ?_, fun differs => absurd rfl differs,
      fun _ none => absurd none List.not_mem_nil⟩
    all_goals exact part_of_sets sets_field fun _ _ => rfl

private theorem fills_implementations :
    entrySchema.Fills
      (field "browser_implementations" (fun fields => fields.implementations.isSome)
        (Json.Reader.map KeyMap.ofList (Json.table implementationSchema.reader))
        (fun value fields => { fields with implementations := some value }))
      EntryFields.implementations
      (fun tree => (tree.table? implementationSchema.ofTree).map KeyMap.ofList) where
  isField := .tail _ (.tail _ (.tail _ (.head _)))
  empty := rfl
  isGiven := fun _ => rfl
  own := exists_of_field_on (Json.map_reads (Json.table_reads implementationSchema_reads) _)
    fun _ _ => rfl
  others := by
    simp only [entrySchema, List.forall_mem_cons]
    refine ⟨fun _ => ?_, fun _ => ?_, fun _ => ?_, fun differs => absurd rfl differs,
      fun _ => part_of_sets sets_specField fun _ _ => rfl,
      fun _ none => absurd none List.not_mem_nil⟩
    all_goals exact part_of_sets sets_field fun _ _ => rfl

private theorem dates_of_built {fields : BaselineFields} {baseline : Baseline}
    (isBuilt : baselineSchema.built fields = some baseline) :
    baseline.lowDate = fields.lowDate.join ∧ baseline.highDate = fields.highDate.join := by
  obtain ⟨status, lowDate, highDate⟩ := fields
  cases status with
  | none => cases isBuilt
  | some status =>
      cases isBuilt
      exact ⟨rfl, rfl⟩

private theorem map_lowDate {tree : Tree} {baseline : Baseline}
    (means : baselineSchema.ofTree tree = some baseline) :
    (held baselineSchema.names "low_date" tree).map dateOf = baseline.lowDate.toList.map some := by
  obtain ⟨state, isMade, isBuilt⟩ := Option.bind_eq_some_iff.mp means
  rw [(dates_of_built isBuilt).1]
  exact map_held fills_lowDate baselineSchema_isLawful isMade

private theorem map_highDate {tree : Tree} {baseline : Baseline}
    (means : baselineSchema.ofTree tree = some baseline) :
    (held baselineSchema.names "high_date" tree).map dateOf =
      baseline.highDate.toList.map some := by
  obtain ⟨state, isMade, isBuilt⟩ := Option.bind_eq_some_iff.mp means
  rw [(dates_of_built isBuilt).2]
  exact map_held fills_highDate baselineSchema_isLawful isMade

private theorem map_implementationDates {tree : Tree} {implementation : Implementation}
    (means : implementationSchema.ofTree tree = some implementation) :
    (implementationDates tree).map dateOf = implementation.date.toList.map some := by
  obtain ⟨state, isMade, isBuilt⟩ := Option.bind_eq_some_iff.mp means
  have isJoined : implementation.date = state.date.join := by
    cases isBuilt
    rfl
  rw [isJoined]
  exact map_held fills_date implementationSchema_isLawful isMade

/-! ## Dates of candidates -/

section Candidate

variable {candidate : Tree} {entry : Entry} (means : entrySchema.ofTree candidate = some entry)

include means

/-- The dates of a baseline are those of the baseline that is carried. -/
theorem map_baselineDates {name : String} {part : Baseline → Option Date}
    (holds : ∀ {tree baseline}, baselineSchema.ofTree tree = some baseline →
      (held baselineSchema.names name tree).map dateOf = (part baseline).toList.map some) :
    (baselineDates name candidate).map dateOf = (entry.baseline.bind part).toList.map some := by
  have isCarried := map_carried means
  rw [baselineDates]
  cases isBaseline : entry.baseline with
  | none =>
      rw [isBaseline] at isCarried
      rw [List.map_eq_nil_iff.mp isCarried]
      rfl
  | some baseline =>
      rw [isBaseline] at isCarried
      obtain ⟨tree, isTree, isBaseline⟩ := List.map_eq_singleton_iff.mp isCarried
      rw [isTree, List.flatMap_singleton, holds isBaseline, Option.bind_some]

/-- The implementations of an entry are those that its candidate carries; of two for the same browser
the later one stays. -/
theorem exists_implementations :
    ∃ implementations : List (String × Implementation),
      List.Forall₂
          (fun member implementation => Json.string? member.1 = some implementation.1 ∧
            implementationSchema.ofTree member.2 = some implementation.2)
          (carriedImplementations candidate) implementations ∧
        entry.implementations = KeyMap.ofList implementations := by
  obtain ⟨state, isMade, isBuilt⟩ := Option.bind_eq_some_iff.mp means
  have given : (candidate.given entrySchema.names "browser_implementations").map
      (fun tree => (tree.table? implementationSchema.ofTree).map KeyMap.ofList) =
        state.implementations.toList.map some :=
    fills_implementations.map_given entrySchema_isLawful isMade
  obtain ⟨name, featureId, rfl⟩ := exists_of_built isBuilt
  rw [carriedImplementations]
  cases isState : state.implementations with
  | none =>
      rw [isState] at given
      rw [List.map_eq_nil_iff.mp given]
      exact ⟨[], .nil, rfl⟩
  | some map =>
      rw [isState] at given
      obtain ⟨value, isValue, isTable⟩ := List.map_eq_singleton_iff.mp given
      obtain ⟨implementations, areRead, rfl⟩ := Option.map_eq_some_iff.mp isTable
      refine ⟨implementations, ?_, rfl⟩
      rw [isValue, List.flatMap_singleton]
      cases value with
      | object members =>
          refine (Json.mapM_eq_some_iff.mp areRead).imp fun member implementation isRead => ?_
          obtain ⟨name, isName, named⟩ := Option.bind_eq_some_iff.mp isRead
          obtain ⟨value, isImplementation, rfl⟩ := Option.map_eq_some_iff.mp named
          exact ⟨isName, isImplementation⟩
      | null | bool | number | text | list => cases areRead

end Candidate

end Response

namespace Response

/-- Whether trees are a text at most that is read as a date, and are shown as that date. -/
def AreShownAs (values : List Tree) (shown : Option String) : Prop :=
  ∃ text : Option String,
    values.map Tree.string? = text.toList.map some ∧ Option.Rel Date.IsShownAs text shown

theorem areShownAs_text {values : List Tree} {date : Option Date}
    (mean : values.map dateOf = date.toList.map some) :
    AreShownAs values (date.map Date.text) := by
  cases date with
  | none =>
      rw [List.map_eq_nil_iff.mp mean]
      exact ⟨none, rfl, .none⟩
  | some date =>
      obtain ⟨value, rfl, isDate⟩ := List.map_eq_singleton_iff.mp mean
      obtain ⟨text, isText, isRead⟩ := Option.bind_eq_some_iff.mp isDate
      refine ⟨some text, by simp [isText], .some (Date.isShownAs_text ?_)⟩
      exact eq_ok_of_toOption isRead

/-- What is shown of the dates of a candidate: each is a text that is read as a date, and is shown by
the text of that date. The later date of a baseline is read, but not shown. -/
structure ShowsDates (candidate : Tree) (record : Record) : Prop where
  low : ∃ shown, AreShownAs (baselineDates "low_date" candidate) shown ∧ ShowsSince record shown
  high : ∃ shown, AreShownAs (baselineDates "high_date" candidate) shown
  browsers : ∃ implementations : List (String × Implementation),
    List.Forall₂
        (fun member implementation => Json.string? member.1 = some implementation.1 ∧
          ∃ shown, AreShownAs (implementationDates member.2) shown ∧
            implementation.2.toValue.named "date" = [Value.ofText? shown])
        (carriedImplementations candidate) implementations ∧
      record.browsers = KeyMap.ofList implementations ∧
      record.toValue.named "browsers" =
        [.object (record.browsers.entries.map fun entry => (entry.1, entry.2.toValue))]

/-- The record of a candidate shows the dates that the candidate carries. -/
theorem showsDates_record {candidate : Tree} {entry : Entry}
    (means : entrySchema.ofTree candidate = some entry) : ShowsDates candidate entry.record where
  low := ⟨_, areShownAs_text (map_baselineDates means map_lowDate), showsSince_text entry.record⟩
  high := ⟨_, areShownAs_text (map_baselineDates means map_highDate)⟩
  browsers := by
    obtain ⟨implementations, areRead, isMap⟩ := exists_implementations means
    refine ⟨implementations, areRead.imp ?_, isMap, rfl⟩
    rintro member implementation ⟨isName, isImplementation⟩
    exact ⟨isName, _, areShownAs_text (map_implementationDates isImplementation),
      named_date_toValue implementation.2⟩

/-- **Dates survive being read and shown.** A text is read as a date exactly if it writes the date,
which is a day of the calendar, and so is the text that is written for it; two texts give the same
one exactly if they write the same day. These texts are shown for the dates in a document. -/
theorem decoded_dates_survive :
    (∀ text date, Date.ofString text = .ok date ↔ date.IsWrittenIn text) ∧
    (∀ text date, Date.ofString text = .ok date →
      Calendar.IsGregorian date.year date.month date.day ∧ Date.ofString date.text = .ok date) ∧
    (∀ text other date otherDate,
      Date.ofString text = .ok date → Date.ofString other = .ok otherDate →
        (date.text = otherDate.text ↔
          ∃ common : Date, common.IsWrittenIn text ∧ common.IsWrittenIn other)) ∧
    ∀ body found, records body = .ok found →
      ∃ tree : Tree, tree.IsDocument body ∧ List.Forall₂ ShowsDates (candidates tree) found := by
  refine ⟨fun _ _ => Date.ofString_eq_ok_iff, fun _ date _ => ⟨date.isGregorian, date.ofString_text⟩,
    fun _ _ _ _ => Date.text_eq_text_iff, ?_⟩
  intro body found decodes
  obtain ⟨tree, isDocument, means⟩ := exists_of_records decodes
  obtain ⟨entries, isAnswer, rfl⟩ := Option.map_eq_some_iff.mp means
  refine ⟨tree, isDocument, List.forall₂_map_right_iff.mpr ?_⟩
  exact (forall₂_candidates isAnswer).imp fun _ _ => showsDates_record

/-- An answer with a leap day that has a sign, a zero in front of its year and white space in it, and
with a day before the first year. -/
def lenientAnswer : String :=
  "\x7b\"data\":[\x7b\"name\":\"Grid\",\"feature_id\":\"grid\","
    ++ "\"baseline\":\x7b\"status\":\"newly\",\"low_date\":\" +02024 - 2-\u300029 \"\x7d,"
    ++ "\"browser_implementations\":\x7b\"a\":\x7b\"date\":\"-1-1-1\"\x7d\x7d\x7d]\x7d"

/-- The record of the candidate. -/
def lenientRecord : Record where
  name := "Grid"
  featureId := "grid"
  tier := .newly
  baselineSince := some ⟨2024, 2, 29, by decide⟩
  specUrl := none
  browsers := .ofList [("a", ⟨.unknown, none, some ⟨-1, 1, 1, by decide⟩⟩)]

theorem lenient_dates_survive :
    records lenientAnswer = .ok [lenientRecord] ∧
      (∃ tree : Tree, tree.IsDocument lenientAnswer ∧
        List.Forall₂ ShowsDates (candidates tree) [lenientRecord]) ∧
      (Summary.ofRecord lenientRecord).availableSince = some "2024-02-29" := by
  have decodes : records lenientAnswer = .ok [lenientRecord] :=
    eq_ok_of_toOption (by decide +kernel)
  exact ⟨decodes, decoded_dates_survive.2.2.2 _ _ decodes, by decide +kernel⟩

end Response

end WebCompat
