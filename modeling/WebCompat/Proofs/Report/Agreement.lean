import WebCompat.Proofs.Lookup.Session
import WebCompat.Proofs.Report.Coherence
import WebCompat.Report.Cursor

/-!
Agreement of the two reports. The word under a cursor is looked up alone, and the tokens of a
document are looked up in one sequence; under a service that answers by the token both lookups of
a name are the same, and so is what both reports show of it.

Owns: what the support of a hovered word is made of; the lookups of an analysis as lookups made
alone; and the comparison of a hover report with the fragments of an analysis.
-/

namespace WebCompat

open Session (ownMachine)

/-! ## What is shown of a record -/

/-- Whether a summary shows a record: its name, identifier, tier, date and address. -/
structure Summary.Shows (summary : Summary) (record : Record) : Prop where
  featureName : summary.featureName = record.name
  featureId : summary.featureId = record.featureId
  tier : summary.tier = record.tier
  availableSince : summary.availableSince = record.baselineSince.map Date.text
  specUrl : summary.specUrl = record.specUrl

theorem Summary.shows_ofRecord (record : Record) : (ofRecord record).Shows record :=
  ⟨rfl, rfl, rfl, rfl, rfl⟩

/-! ## The hovered word -/

/-- A word that is recognized is looked up. -/
theorem HoverSupport.ofWord_of_recognizes (service : Service) (client : Client)
    {kind : DocumentKind} {word : String} (before : List Request)
    (recognized : Vocabulary.recognizes kind word = true) :
    (ofWord service client kind word before).1 =
      match (Client.resolveOne service client word before).1 with
      | .ok record => .resolved record (.ofRecord? word record (kind.hoverKind word))
      | .error error => .failed error.message := by
  rw [ofWord, if_pos recognized]
  generalize Client.resolveOne service client word before = answer
  obtain ⟨outcome, requests⟩ := answer
  cases outcome with
  | ok record => rfl
  | error error => rfl

/-- The support in a report is that of the word in it. -/
theorem HoverReport.support_of_at? {service : Service} {client : Client} {kind : DocumentKind}
    {text : String} {line column : Nat} {before : List Request} {report : HoverReport}
    (found : (at? service client kind text line column before).1 = some report) :
    report.support = (HoverSupport.ofWord service client kind report.word before).1 := by
  unfold at? at found
  split at found
  · cases found
  · split at found
    · cases found
    · cases found
      rfl

/-! ## The lookups of an analysis -/

/-- Under a service that answers by the token, an analysis makes the lookups that would have been
made alone. -/
theorem Analysis.eq_lookup_of_mem_lookups
    {replies : (token : String) → (earlier : Nat) → Replies} {client : Client}
    {kind : DocumentKind} {text : String} {before : List Request} {made : Lookup}
    (member : made ∈ lookups (.byToken replies) client kind text before) :
    made = Client.lookup (.byToken replies) client made.token before := by
  have distinct := DocumentElements.nodup_queries (DocumentElements.ofText kind text)
  rw [lookups, Client.lookups_byToken replies client distinct fun _ _ => rfl] at member
  obtain ⟨token, _, rfl⟩ := List.mem_map.mp member
  rfl

/-! ## Both reports -/

/-- **What a hover shows of a name is what an analysis shows of it.** If the word under a cursor is
worth a lookup, and a category of the analysis has a fragment for it, then both lookups have found
the same, whether or not their requests are sent on to other addresses: the hover is resolved with
the support of that fragment, which is there if a record was found and shows this record; or the
hover has failed, the fragment has no support, and the lookup of the word is one of those that the
analysis counts as failed. -/
theorem hover_agrees_with_analysis
    (replies : (token : String) → (earlier : Nat) → Replies) (client : Client)
    (kind : DocumentKind) (text : String) (line column : Nat) (before : List Request)
    {report : HoverReport}
    (found : (HoverReport.at? (.byToken replies) client kind text line column before).1 = some report)
    (recognized : Vocabulary.recognizes kind report.word = true)
    {category : Category}
    (member : category ∈
      (Analysis.ofDocument (.byToken replies) client kind text before).1.categories.map Prod.snd)
    {fragment : Fragment} (shown : category.fragment? report.word = some fragment) :
    (∃ record own, report.support = .resolved record own ∧
        own.support = fragment.support ∧
        (own.support.isSome = true ↔ record.isSome = true) ∧
        ∀ known, record = some known → ∃ summary, own.support = some summary ∧
          summary.Shows known) ∨
      ∃ message, report.support = .failed message ∧
        fragment.support = none ∧
        (∃ made ∈ Analysis.lookups (.byToken replies) client kind text before,
          made.token = report.word ∧ made.isFailed = true) ∧
        (Analysis.ofDocument (.byToken replies) client kind text before).1.failedLookups =
          (Analysis.lookups (.byToken replies) client kind text before).countP Lookup.isFailed := by
  obtain ⟨made, isMade, isWord, isFragment⟩ :=
    Analysis.exists_lookup_of_fragment? (.byToken replies) client kind text before member shown
  have alone := Analysis.eq_lookup_of_mem_lookups isMade
  rw [isWord] at alone
  have sameOutcome :
      made.outcome = (Client.resolveOne (.byToken replies) client report.word before).1 :=
    congrArg Lookup.outcome alone
  have support := HoverReport.support_of_at? found
  rw [HoverSupport.ofWord_of_recognizes (.byToken replies) client before recognized,
    ← sameOutcome] at support
  cases outcome : made.outcome with
  | ok record =>
      have sameRecord : made.record = record := by
        rw [Lookup.record, outcome]
        rfl
      rw [outcome] at support
      refine .inl ⟨record, _, support, ?_, ?_, ?_⟩
      · rw [isFragment, sameRecord]
        rfl
      · cases record with
        | none => exact Iff.rfl
        | some known => exact Iff.rfl
      · rintro known rfl
        exact ⟨.ofRecord known, rfl, Summary.shows_ofRecord known⟩
  | error error =>
      have noRecord : made.record = none := by
        rw [Lookup.record, outcome]
        rfl
      have failed : made.isFailed = true := by
        rw [Lookup.isFailed, outcome]
        rfl
      rw [outcome] at support
      refine .inr ⟨error.message, support, ?_, ⟨made, isMade, isWord, failed⟩, ?_⟩
      · rw [isFragment, noRecord]
        rfl
      · exact (Analysis.ofDocument_lookups (.byToken replies) client kind text before).1

/-- A service that knows one feature and answers nothing else. -/
def knowsDiv : (token : String) → (earlier : Nat) → Replies :=
  fun token _ =>
    if token = "div" then
      .ofReply
        (some
          { status := 200, contentType := "application/json"
            body := Text.stringBytes
              ("\x7b\"data\":[\x7b\"name\":\"Div\",\"feature_id\":\"div\","
                ++ "\"baseline\":\x7b\"status\":\"widely\",\"low_date\":\"2020-01-15\"\x7d\x7d]\x7d")
            isTruncated := false })
    else .ofReply none

/-- Both reports show the record of `div`. -/
theorem hover_agrees_with_analysis_on_div :
    let hover := (HoverReport.at? (.byToken knowsDiv) ownMachine .html "<div>" 0 2 []).1
    let analysis := (Analysis.ofDocument (.byToken knowsDiv) ownMachine .html "<div>" []).1
    ∃ report fragment, hover = some report ∧
      Vocabulary.recognizes .html report.word = true ∧
      analysis.htmlTags ∈ analysis.categories.map Prod.snd ∧
      analysis.htmlTags.fragment? report.word = some fragment ∧
      ∃ record own summary, report.support = .resolved (some record) own ∧
        own.support = fragment.support ∧ own.support = some summary ∧ summary.Shows record := by
  intro hover analysis
  have word : hover.map HoverReport.word = some "div" := by decide +kernel
  have data : (analysis.htmlTags.fragment? "div").map Fragment.hasData = some true := by
    decide +kernel
  obtain ⟨report, found, isWord⟩ := Option.map_eq_some_iff.mp word
  obtain ⟨fragment, shown, hasData⟩ := Option.map_eq_some_iff.mp data
  have recognized : Vocabulary.recognizes .html report.word = true := by
    rw [isWord]
    decide +kernel
  have member : analysis.htmlTags ∈ analysis.categories.map Prod.snd := List.mem_cons_self
  rw [← isWord] at shown
  refine ⟨report, fragment, found, recognized, member, shown, ?_⟩
  rcases hover_agrees_with_analysis knowsDiv ownMachine .html "<div>" 0 2 [] found recognized
    member shown with ⟨record, own, support, same, present, showsEach⟩ | ⟨_, _, noSupport, _⟩
  · rw [Fragment.hasData, ← same] at hasData
    obtain ⟨known, isKnown⟩ := Option.isSome_iff_exists.mp (present.mp hasData)
    obtain ⟨summary, isSummary, showsKnown⟩ := showsEach known isKnown
    rw [isKnown] at support
    exact ⟨known, own, summary, support, same, isSummary, showsKnown⟩
  · rw [Fragment.hasData, noSupport] at hasData
    cases hasData

end WebCompat
