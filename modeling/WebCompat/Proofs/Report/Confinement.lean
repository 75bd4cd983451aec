import Mathlib.Data.List.Perm.Subperm
import WebCompat.Proofs.Report.Coherence
import WebCompat.Proofs.Text.Lowercase
import WebCompat.Proofs.Text.Span
import WebCompat.Shell.Run

/-!
Confinement of what is sent: no request carries a name that an author made up.

Owns: the names of the web platform that each category can be asked for, the bound on the lookups
of a document, and the words that a cursor can cause to be looked up.

The items of a case-insensitive set are in lower case, and lower-casing is idempotent, so an item
that is recognized stands in its table as it is. This is what keeps other spellings out of the
requests, and what makes the size of the tables a bound on the lookups.
-/

namespace WebCompat

/-! ## Names by category -/

/-- The names of the web platform that the tokens of a category are compared with. -/
def TokenKind.names : TokenKind → List String
  | .htmlTag => Vocabulary.htmlTags
  | .cssProperty => Vocabulary.cssProperties
  | .jsFunction | .jsVariable => Vocabulary.jsGlobals
  | .cssSelector => []

/-- A token is recognized if its normal form is one of the names. -/
theorem TokenKind.recognizes_iff (kind : TokenKind) (token : String) :
    kind.Recognizes token ↔ kind.normalize token ∈ kind.names := by
  cases kind <;>
    simp [Recognizes, language?, names, normalize, isCaseInsensitive, Vocabulary.recognizes,
      Vocabulary.isHtmlTag, Vocabulary.isCssProperty, Vocabulary.isJsGlobal]

namespace DocumentElements

/-- What is looked up for a document is a name of a category in which something was found. -/
theorem exists_category_of_mem_queries {kind : DocumentKind} {text token : String}
    (asked : token ∈ (ofText kind text).queries) :
    ∃ category, found kind text category ≠ [] ∧ token ∈ category.names := by
  obtain ⟨set, isSet, isQueried⟩ := (mem_queries_ofText kind text token).mp asked
  rw [sets_ofText] at isSet
  obtain ⟨category, _, rfl⟩ := List.mem_map.mp isSet
  obtain ⟨isItem, recognized⟩ := (TokenSet.mem_queried _ token).mp isQueried
  rw [TokenSet.kind_ofList] at recognized
  refine ⟨category, ?_, ?_⟩
  · intro nothing
    obtain ⟨raw, isFound, _⟩ := (TokenSet.mem_items_ofList category _ token).mp isItem
    rw [nothing] at isFound
    exact absurd isFound List.not_mem_nil
  · rw [← (TokenSet.collects_ofList category _).normalize_of_mem isItem]
    exact (TokenKind.recognizes_iff category token).mp recognized

/-- A style sheet is scanned for nothing that is judged as markup or as script. -/
theorem style_of_found {kind : DocumentKind} {text : String} {category : TokenKind}
    (isStylesheet : kind.isStylesheet = true) (isFound : found kind text category ≠ []) :
    category = .cssSelector ∨ category = .cssProperty := by
  have noMarkup : scansMarkup kind text = false := by
    cases kind <;> first | rfl | exact Bool.noConfusion isStylesheet
  have noScript : scansScript kind = false := by
    cases kind <;> first | rfl | exact Bool.noConfusion isStylesheet
  cases category with
  | cssSelector => exact .inl rfl
  | cssProperty => exact .inr rfl
  | htmlTag => simp [found, noMarkup] at isFound
  | jsFunction | jsVariable => simp [found, noScript] at isFound

/-- A script is not scanned for anything that is judged as style. -/
theorem not_style_of_found {kind : DocumentKind} {text : String} {category : TokenKind}
    (isScript : kind.isScript = true) (isFound : found kind text category ≠ []) :
    category ≠ .cssSelector ∧ category ≠ .cssProperty := by
  have noStyle : scansStyle kind = false := by
    cases kind <;> first | rfl | exact Bool.noConfusion isScript
  refine ⟨?_, ?_⟩
  · rintro rfl
    simp [found, noStyle] at isFound
  · rintro rfl
    simp [found, noStyle] at isFound

/-- The names that can be looked up for a document, by what the document is written in. -/
theorem confined_of_mem_queries {kind : DocumentKind} {text token : String}
    (asked : token ∈ (ofText kind text).queries) :
    (token ∈ Vocabulary.htmlTags ∨ token ∈ Vocabulary.cssProperties ∨
        token ∈ Vocabulary.jsGlobals) ∧
      (kind.isStylesheet = true → token ∈ Vocabulary.cssProperties) ∧
      (kind.isScript = true → token ∈ Vocabulary.htmlTags ∨ token ∈ Vocabulary.jsGlobals) := by
  obtain ⟨category, isFound, isName⟩ := exists_category_of_mem_queries asked
  refine ⟨?_, ?_, ?_⟩
  · cases category with
    | htmlTag => exact .inl isName
    | cssProperty => exact .inr (.inl isName)
    | jsFunction | jsVariable => exact .inr (.inr isName)
    | cssSelector => exact absurd isName List.not_mem_nil
  · intro isStylesheet
    rcases style_of_found isStylesheet isFound with rfl | rfl
    · exact absurd isName List.not_mem_nil
    · exact isName
  · intro isScript
    obtain ⟨notSelector, notProperty⟩ := not_style_of_found isScript isFound
    cases category with
    | htmlTag => exact .inl isName
    | jsFunction | jsVariable => exact .inr isName
    | cssSelector => exact absurd rfl notSelector
    | cssProperty => exact absurd rfl notProperty

/-- No document asks for more names than the tables hold. -/
theorem length_queries_ofText_le (kind : DocumentKind) (text : String) :
    (ofText kind text).queries.length ≤ 97 := by
  have listed : (ofText kind text).queries ⊆
      Vocabulary.htmlTags ++ Vocabulary.cssProperties ++ Vocabulary.jsGlobals := by
    intro token asked
    rw [List.mem_append, List.mem_append, or_assoc]
    exact (confined_of_mem_queries asked).1
  exact (List.subperm_of_subset (nodup_queries _) listed).length_le

end DocumentElements

/-! ## Words under a cursor -/

/-- Whether a word in a document of the given kind names something of the web platform: a global
in a script, letter by letter, an element in markup, or a property in a style sheet. -/
def DocumentKind.Names (kind : DocumentKind) (word : String) : Prop :=
  (kind.isScript = true ∧ word ∈ Vocabulary.jsGlobals) ∨
    ((kind = .html ∨ kind.isJsx = true) ∧ Text.lowercase word ∈ Vocabulary.htmlTags) ∨
    (kind.isStylesheet = true ∧ Text.lowercase word ∈ Vocabulary.cssProperties)

/-- The words that name something of the web platform are those that are recognized. -/
theorem DocumentKind.names_iff (kind : DocumentKind) (word : String) :
    kind.Names word ↔ Vocabulary.recognizes kind word = true := by
  cases kind <;>
    simp [Names, isScript, isJsx, isStylesheet, Vocabulary.recognizes, Vocabulary.isHtmlTag,
      Vocabulary.isCssProperty, Vocabulary.isJsGlobal]

section Requests

variable (service : Service) (client : Client)

/-- What is sent for a word, which may be nothing. -/
theorem HoverSupport.ofWord_requests (kind : DocumentKind) (word : String)
    (before : List Request) :
    (ofWord service client kind word before).2 =
      before ++
        if Vocabulary.recognizes kind word then Client.sent service client word before else [] := by
  unfold ofWord
  split
  · rw [← Client.resolveOne_requests]
    generalize Client.resolveOne service client word before = answer
    obtain ⟨outcome, requests⟩ := answer
    cases outcome <;> rfl
  · rw [List.append_nil]

/-- **A cursor sends at most the word under it.** -/
theorem HoverReport.exists_requests_at? (kind : DocumentKind) (text : String)
    (line column : Nat) (before : List Request) :
    ∃ requests, (at? service client kind text line column before).2 = before ++ requests ∧
      (requests = [] ∨ ∃ lineText word,
        (Text.lines text)[line]? = some lineText ∧
          Text.IsWordAt kind.inWord lineText column word ∧ kind.Names word ∧
          requests = Client.sent service client word before) := by
  unfold at?
  split
  · exact ⟨[], (List.append_nil before).symm, .inl rfl⟩
  · rename_i lineText isLine
    split
    · exact ⟨[], (List.append_nil before).symm, .inl rfl⟩
    · rename_i span found
      refine ⟨_, HoverSupport.ofWord_requests service client kind span.word before, ?_⟩
      split
      · rename_i recognized
        refine .inr ⟨lineText, span.word, isLine, Text.isWordAt_of_spanAt? found, ?_, rfl⟩
        exact (kind.names_iff span.word).mpr recognized
      · exact .inl rfl

/-- Without lookups nothing is sent, whether or not the file can be read. -/
theorem World.analyze_offline_requests (world : World) (path : String)
    (language : Option String) (format : Arguments.OutputFormat) :
    (world.analyze path language true format).2 = [] := by
  unfold analyze
  split
  · rfl
  · rfl

/-- **Names that an author made up are never sent.** The analysis of a document looks up distinct
names that stand letter by letter in the tables of the web platform, at most as many as there are:
for a style sheet only properties, for a script only elements and globals. Each lookup repeats
the one request for its name; where a service redirects a request, it is sent on for the same name
to an address that the service chooses. Without lookups nothing is sent. A cursor causes at most the
lookup of the word that it stands at, and only if this word is in the table of its document. -/
theorem requests_confined_to_vocabulary (kind : DocumentKind) (text : String)
    (before : List Request) :
    let made := Analysis.lookups service client kind text before
    let answer := Analysis.ofDocument service client kind text before
    answer.2 = before ++ made.flatMap Lookup.requests ∧
      (∀ request ∈ service.traffic before (made.flatMap Lookup.requests),
        ∃ own ∈ made.flatMap Lookup.requests, request.IsOnBehalfOf own) ∧
      (made.map Lookup.token).Nodup ∧
      made.length ≤ 97 ∧
      (∀ lookup ∈ made,
        (∀ request ∈ lookup.requests, client.request lookup.token = .ok request) ∧
          lookup.requests.length ≤ client.settings.maxRetries + 1 ∧
          (lookup.token ∈ Vocabulary.htmlTags ∨ lookup.token ∈ Vocabulary.cssProperties ∨
            lookup.token ∈ Vocabulary.jsGlobals) ∧
          (kind.isStylesheet = true → lookup.token ∈ Vocabulary.cssProperties) ∧
          (kind.isScript = true →
            lookup.token ∈ Vocabulary.htmlTags ∨ lookup.token ∈ Vocabulary.jsGlobals)) ∧
      (∀ (world : World) path language format,
        (world.analyze path language true format).2 = []) ∧
      ∀ line column, ∃ requests,
        (HoverReport.at? service client kind text line column before).2 = before ++ requests ∧
          requests.length ≤ client.settings.maxRetries + 1 ∧
          (∀ request ∈ service.traffic before requests,
            ∃ own ∈ requests, request.IsOnBehalfOf own) ∧
          (kind = .other → requests = []) ∧
          (requests = [] ∨ ∃ lineText word,
            (Text.lines text)[line]? = some lineText ∧
              Text.IsWordAt kind.inWord lineText column word ∧ kind.Names word ∧
              ∀ request ∈ requests, client.request word = .ok request) := by
  intro made answer
  have tokens : made.map Lookup.token = (DocumentElements.ofText kind text).queries :=
    Analysis.map_token_lookups service client kind text before
  refine ⟨(Analysis.ofDocument_lookups service client kind text before).2, ?_, ?_, ?_, ?_, ?_, ?_⟩
  · intro request onWire
    exact service.exists_onBehalfOf_of_mem_traffic before onWire
  · rw [tokens]
    exact DocumentElements.nodup_queries _
  · rw [← List.length_map Lookup.token, tokens]
    exact DocumentElements.length_queries_ofText_le kind text
  · intro lookup isMade
    have asked : lookup.token ∈ (DocumentElements.ofText kind text).queries :=
      tokens ▸ List.mem_map_of_mem isMade
    obtain ⟨sameRequest, bounded⟩ := Client.requests_of_mem_lookups service client isMade
    exact ⟨sameRequest, bounded, DocumentElements.confined_of_mem_queries asked⟩
  · exact World.analyze_offline_requests
  · intro line column
    obtain ⟨requests, log, shape⟩ :=
      HoverReport.exists_requests_at? service client kind text line column before
    refine ⟨requests, log, ?_, ?_, ?_, ?_⟩
    · rcases shape with nothing | ⟨_, word, _, _, _, isSent⟩
      · rw [nothing]
        exact Nat.zero_le _
      · rw [isSent]
        exact Client.length_sent_le service client word before
    · intro request onWire
      exact service.exists_onBehalfOf_of_mem_traffic before onWire
    · intro isOther
      rcases shape with nothing | ⟨_, word, _, _, named, _⟩
      · exact nothing
      · rw [DocumentKind.names_iff, isOther] at named
        exact nomatch named
    · rcases shape with nothing | ⟨lineText, word, isLine, standsAt, named, isSent⟩
      · exact .inl nothing
      · refine .inr ⟨lineText, word, isLine, standsAt, named, ?_⟩
        rw [isSent]
        intro request member
        exact Client.request_of_mem_sent service client word before member

end Requests

end WebCompat
