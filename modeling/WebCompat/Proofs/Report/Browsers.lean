import Mathlib.Data.List.Find
import WebCompat.Proofs.KeyMap
import WebCompat.Proofs.Text.Scan
import WebCompat.Report.Fragment
import WebCompat.Report.Markdown

/-!
The browsers of a record in the summary and in Markdown. The summary looks for each browser that it
shows under three identifiers, and is content with the first one in use; Markdown goes through all
identifiers of the record. What both show of one identifier is the same.

Owns: what the paragraph of an implementation shows, and of which identifier; the cells of a summary
by their sources; and the comparison of the cells with the paragraphs.
-/

namespace WebCompat

open Text (eq_of_append_eq_append)

/-! ## Paragraphs -/

namespace Markdown

/-- The paragraphs on the implementations of a record, each with its identifier. -/
def paragraphs (record : Record) : List (String × String) :=
  record.browsers.entries.map fun entry => (entry.1, implementationLine entry.1 entry.2)

/-- How the paragraph of an identifier begins. -/
def heading (key : String) : String :=
  browserIcon key ++ " **" ++ browserName key ++ "**: "

/-- How a version is shown, if there is one. -/
def versionNote (version : Option String) : String :=
  match version with
  | some version => " (v" ++ version ++ ")"
  | none => ""

/-- A paragraph that shows of an identifier whether it supports the feature, and since which
version. -/
def Shows (paragraph key : String) (isSupported : Bool) (version : Option String) : Prop :=
  paragraph =
    heading key ++ ((if isSupported then "✅" else "❌") ++ (versionNote version ++ "\n\n"))

theorem shows_implementationLine (key : String) (implementation : Implementation) :
    Shows (implementationLine key implementation) key
      (decide (implementation.status = .available)) implementation.version := by
  obtain ⟨status, version, date⟩ := implementation
  rw [Shows, heading, implementationLine]
  cases status <;> simp only [String.append_assoc] <;> rfl

private theorem versionNote_injective {version other : Option String}
    (same : versionNote version = versionNote other) : version = other := by
  have sameText := congrArg String.toList same
  cases version with
  | none =>
      cases other with
      | none => rfl
      | some other => simp [versionNote] at sameText
  | some version =>
      cases other with
      | none => simp [versionNote] at sameText
      | some other => simpa [versionNote, ← String.toList_inj] using sameText

section Shown

variable {paragraph key : String} {isSupported otherSupported : Bool}
  {version otherVersion : Option String}

/-- A paragraph shows of an identifier one support and one version at most. -/
theorem Shows.unique (shows : Shows paragraph key isSupported version)
    (again : Shows paragraph key otherSupported otherVersion) :
    isSupported = otherSupported ∧ version = otherVersion := by
  have sameTail := (String.append_right_inj _).mp (shows.symm.trans again)
  have sameMark : isSupported = otherSupported := by
    have sameText := congrArg String.toList sameTail
    cases isSupported <;> cases otherSupported <;> simp at sameText ⊢
  rw [sameMark] at sameTail
  have sameNote := (String.append_left_inj _).mp ((String.append_right_inj _).mp sameTail)
  exact ⟨sameMark, versionNote_injective sameNote⟩

/-- What the paragraph of an implementation shows, and that it shows nothing else. -/
theorem shows_implementationLine_iff {implementation : Implementation} :
    Shows (implementationLine key implementation) key isSupported version ↔
      (isSupported = true ↔ implementation.status = .available) ∧
        version = implementation.version := by
  rw [← decide_eq_true_iff (p := implementation.status = .available), ← Bool.eq_iff_iff]
  have shows := shows_implementationLine key implementation
  constructor
  · intro again
    exact again.unique shows
  · rintro ⟨rfl, rfl⟩
    exact shows

end Shown

/-! ### Headings -/

/-- The identifiers that have a name of their own. -/
def knownKeys : List String :=
  ["chrome", "chrome_android", "firefox", "firefox_android", "safari", "safari_ios", "edge"]

/-- Of another identifier, the name is the identifier. -/
theorem icon_and_name_of_unknown {key : String} (isUnknown : key ∉ knownKeys) :
    browserIcon key = "⚫" ∧ browserName key = key := by
  simp only [knownKeys, List.mem_cons, List.not_mem_nil, or_false, not_or] at isUnknown
  constructor
  · unfold browserIcon
    split <;> simp_all
  · unfold browserName
    split <;> simp_all

private theorem length_browserIcon (key : String) : (browserIcon key).toList.length = 1 := by
  by_cases isKnown : key ∈ knownKeys
  · have ofKnown : ∀ key ∈ knownKeys, (browserIcon key).toList.length = 1 := by decide
    exact ofKnown key isKnown
  · rw [(icon_and_name_of_unknown isKnown).1]
    rfl

/-- No name has an asterisk, unless it is an identifier with one. -/
theorem no_asterisk_browserName {key : String} (noAsterisk : '*' ∉ key.toList) :
    ∀ c ∈ (browserName key).toList, (c != '*') = true := by
  by_cases isKnown : key ∈ knownKeys
  · have ofKnown : ∀ key ∈ knownKeys, (browserName key).toList.all (· != '*') = true := by decide
    exact List.all_eq_true.mp (ofKnown key isKnown)
  · rw [(icon_and_name_of_unknown isKnown).2]
    intro c member
    rw [bne_iff_ne]
    rintro rfl
    exact noAsterisk member

/-- An icon and a name are of one identifier only. -/
theorem key_eq_of_icon_and_name {key other : String} (sameIcon : browserIcon key = browserIcon other)
    (sameName : browserName key = browserName other) : key = other := by
  have hasIcon : ∀ key ∈ knownKeys, browserIcon key ≠ "⚫" := by decide
  have ofKnown : ∀ key ∈ knownKeys, ∀ other ∈ knownKeys,
      browserName key = browserName other → key = other := by decide
  by_cases isKnown : key ∈ knownKeys
  · by_cases otherKnown : other ∈ knownKeys
    · exact ofKnown key isKnown other otherKnown sameName
    · rw [(icon_and_name_of_unknown otherKnown).1] at sameIcon
      exact absurd sameIcon (hasIcon key isKnown)
  · rw [(icon_and_name_of_unknown isKnown).1] at sameIcon
    by_cases otherKnown : other ∈ knownKeys
    · exact absurd sameIcon.symm (hasIcon other otherKnown)
    · rwa [(icon_and_name_of_unknown isKnown).2, (icon_and_name_of_unknown otherKnown).2] at sameName

/-- **A paragraph is of one identifier**, among those without asterisks. -/
theorem key_eq_of_shows {paragraph key other : String} {isSupported otherSupported : Bool}
    {version otherVersion : Option String}
    (noAsterisk : '*' ∉ key.toList) (noAsteriskInOther : '*' ∉ other.toList)
    (shows : Shows paragraph key isSupported version)
    (again : Shows paragraph other otherSupported otherVersion) : key = other := by
  have sameText := congrArg String.toList (shows.symm.trans again)
  simp only [heading, String.toList_append, List.append_assoc] at sameText
  obtain ⟨sameIcon, afterIcon⟩ :=
    List.append_inj sameText ((length_browserIcon key).trans (length_browserIcon other).symm)
  have sameName : (browserName key).toList = (browserName other).toList :=
    eq_of_append_eq_append (List.append_cancel_left afterIcon) (no_asterisk_browserName noAsterisk)
      (no_asterisk_browserName noAsteriskInOther) (by simp) (by simp)
  exact key_eq_of_icon_and_name (String.toList_inj.mp sameIcon) (String.toList_inj.mp sameName)

/-! ### The paragraphs of a record -/

section Paragraphs

variable {record : Record} {key paragraph : String}

/-- The Markdown of a record is made of its paragraphs. -/
theorem support_eq_paragraphs (record : Record) :
    support (some record) = "\n\n**Browser Support:**\n\n" ++
      String.join ((paragraphs record).map Prod.snd ++ baselineLines record) := by
  have lines : (paragraphs record).map Prod.snd =
      record.browsers.entries.map fun entry => implementationLine entry.1 entry.2 := by
    rw [paragraphs, List.map_map]
    rfl
  unfold support
  dsimp only
  rw [lines]

theorem mem_paragraphs_iff :
    (key, paragraph) ∈ paragraphs record ↔
      ∃ implementation, record.browsers.get? key = some implementation ∧
        paragraph = implementationLine key implementation := by
  rw [paragraphs, List.mem_map]
  constructor
  · rintro ⟨⟨other, implementation⟩, isEntry, same⟩
    cases same
    exact ⟨implementation, KeyMap.mem_entries_iff.mp isEntry, rfl⟩
  · rintro ⟨implementation, isValue, rfl⟩
    exact ⟨(key, implementation), KeyMap.mem_entries_iff.mpr isValue, rfl⟩

private theorem contains_of_mem_paragraphs (isThere : (key, paragraph) ∈ paragraphs record) :
    record.browsers.contains key = true := by
  obtain ⟨implementation, isValue, _⟩ := mem_paragraphs_iff.mp isThere
  rw [KeyMap.contains, isValue]
  rfl

end Paragraphs

/-- Paragraphs of Markdown on the implementations of a record: one for each identifier, in their
order, which shows what the record says of the identifier and nothing else. -/
structure Lists (paragraphs : List (String × String)) (record : Record) : Prop where
  text : support (some record) = "\n\n**Browser Support:**\n\n" ++
    String.join (paragraphs.map Prod.snd ++ baselineLines record)
  increasing : (paragraphs.map Prod.fst).Pairwise (· < ·)
  complete : ∀ key, record.browsers.contains key = true ↔ key ∈ paragraphs.map Prod.fst
  shown : ∀ key paragraph, (key, paragraph) ∈ paragraphs →
    ∃ implementation, record.browsers.get? key = some implementation ∧
      ∀ isSupported version, Shows paragraph key isSupported version ↔
        (isSupported = true ↔ implementation.status = .available) ∧
          version = implementation.version

theorem lists_paragraphs (record : Record) : Lists (paragraphs record) record where
  text := support_eq_paragraphs record
  increasing := by
    have keys : (paragraphs record).map Prod.fst = record.browsers.entries.map Prod.fst := by
      rw [paragraphs, List.map_map]
      rfl
    rw [keys]
    exact record.browsers.sorted
  complete := by
    intro key
    constructor
    · intro isUsed
      obtain ⟨implementation, isValue⟩ := Option.isSome_iff_exists.mp isUsed
      exact List.mem_map.mpr ⟨_, mem_paragraphs_iff.mpr ⟨implementation, isValue, rfl⟩, rfl⟩
    · intro isKey
      obtain ⟨⟨_, paragraph⟩, isThere, rfl⟩ := List.mem_map.mp isKey
      exact contains_of_mem_paragraphs isThere
  shown := by
    intro key paragraph isThere
    obtain ⟨implementation, isValue, rfl⟩ := mem_paragraphs_iff.mp isThere
    exact ⟨implementation, isValue, fun _ _ => shows_implementationLine_iff⟩

end Markdown

/-! ## Cells -/

/-- The identifiers that stand for a browser: its own, and those of its variants for mobile
systems. -/
def Browser.identifiers : Browser → List String
  | .chrome => ["chrome", "chrome_android", "chrome_ios"]
  | .firefox => ["firefox", "firefox_android", "firefox_ios"]
  | .safari => ["safari", "safari_android", "safari_ios"]
  | .edge => ["edge", "edge_android", "edge_ios"]

/-- The identifiers that are made of the key of a browser are those of the table. -/
theorem Browser.lookupKeys_eq (browser : Browser) : browser.lookupKeys = browser.identifiers := by
  cases browser <;> decide

section Cells

variable {browser : Browser} {record other : Record}

/-- The first identifier in use, together with what it stands for. -/
theorem Browser.findIn_eq_bind (browser : Browser) (record : Record) :
    browser.findIn record = (browser.identifiers.find? record.browsers.contains).bind fun key =>
      (record.browsers.get? key).map (key, ·) := by
  rw [findIn, Browser.lookupKeys_eq]
  induction browser.identifiers with
  | nil => rfl
  | cons key keys inductionHypothesis =>
      rw [List.findSome?_cons, List.find?_cons, KeyMap.contains]
      cases isValue : record.browsers.get? key with
      | none => exact inductionHypothesis
      | some implementation => simp [isValue]

theorem BrowserCell.ofRecord_of_find? {key : String}
    (isFirst : browser.identifiers.find? record.browsers.contains = some key) :
    ∃ implementation, record.browsers.get? key = some implementation ∧
      ofRecord record browser =
        ⟨browser, some key, .ofAvailability implementation.status, implementation.version⟩ := by
  have isUsed : record.browsers.contains key = true := List.find?_some isFirst
  obtain ⟨implementation, isValue⟩ := Option.isSome_iff_exists.mp isUsed
  refine ⟨implementation, isValue, ?_⟩
  rw [ofRecord, Browser.findIn_eq_bind, isFirst, Option.bind_some, isValue]
  rfl

theorem BrowserCell.ofRecord_of_find?_none
    (isNone : browser.identifiers.find? record.browsers.contains = none) :
    ofRecord record browser = ⟨browser, none, .unknown, none⟩ := by
  rw [ofRecord, Browser.findIn_eq_bind, isNone]
  rfl

/-- A cell depends on nothing but the identifiers of its browser. -/
theorem BrowserCell.ofRecord_congr
    (same : ∀ key ∈ browser.identifiers, record.browsers.get? key = other.browsers.get? key) :
    ofRecord record browser = ofRecord other browser := by
  have sameFirst : browser.identifiers.find? record.browsers.contains =
      browser.identifiers.find? other.browsers.contains := by
    apply List.find?_congr
    intro key member
    rw [KeyMap.contains, KeyMap.contains, same key member]
  cases isFirst : browser.identifiers.find? record.browsers.contains with
  | none =>
      rw [ofRecord_of_find?_none isFirst, ofRecord_of_find?_none (sameFirst ▸ isFirst)]
  | some key =>
      obtain ⟨implementation, isValue, isCell⟩ := ofRecord_of_find? isFirst
      obtain ⟨otherImplementation, isOtherValue, isOtherCell⟩ :=
        ofRecord_of_find? (sameFirst ▸ isFirst)
      rw [same key (List.mem_of_find?_eq_some isFirst), isOtherValue] at isValue
      cases isValue
      rw [isCell, isOtherCell]

end Cells

theorem SupportState.ofAvailability_eq_supported_iff {status : Availability} :
    ofAvailability status = .supported ↔ status = .available := by
  cases status <;> decide

theorem SupportState.ofAvailability_ne_unknown (status : Availability) :
    ofAvailability status ≠ .unknown := by
  cases status <;> decide

/-! ## Both of them -/

/-- How the cell of a browser goes together with paragraphs, each of them with its identifier. -/
structure BrowserCell.AgreesWith (cell : BrowserCell) (record : Record)
    (paragraphs : List (String × String)) : Prop where
  /-- The source is the first identifier of the browser that the record has. -/
  source : cell.source = cell.browser.identifiers.find? record.browsers.contains
  /-- There is one paragraph of the source, which shows what the cell shows and nothing else. -/
  shown : ∀ key ∈ cell.source, ∃! paragraph, (key, paragraph) ∈ paragraphs ∧
    ∀ isSupported version, Markdown.Shows paragraph key isSupported version ↔
      (isSupported = true ↔ cell.state = .supported) ∧ version = cell.version
  /-- Of a browser in the state `unknown` the record has none of the identifiers, and there is no
  paragraph of any of them. -/
  unknown : cell.state = .unknown ↔ ∀ key ∈ cell.browser.identifiers,
    record.browsers.contains key = false ∧ ∀ paragraph, (key, paragraph) ∉ paragraphs
  /-- No other paragraph can be taken for one of the browser, if its identifier has no asterisk. -/
  own : ∀ key ∈ cell.browser.identifiers, ∀ other paragraph, (other, paragraph) ∈ paragraphs →
    '*' ∉ other.toList → ∀ isSupported version,
      Markdown.Shows paragraph key isSupported version → other = key

private theorem no_asterisk_identifiers (browser : Browser) :
    ∀ key ∈ browser.identifiers, '*' ∉ key.toList := by
  cases browser <;> decide

/-- The cell of a browser goes together with the paragraphs of the record. -/
theorem BrowserCell.agreesWith_paragraphs (record : Record) (browser : Browser) :
    (ofRecord record browser).AgreesWith record (Markdown.paragraphs record) := by
  have own : ∀ key ∈ browser.identifiers, ∀ other paragraph,
      (other, paragraph) ∈ Markdown.paragraphs record → '*' ∉ other.toList →
      ∀ isSupported version, Markdown.Shows paragraph key isSupported version → other = key := by
    intro key member other paragraph isThere noAsterisk isSupported version shows
    obtain ⟨implementation, _, rfl⟩ := Markdown.mem_paragraphs_iff.mp isThere
    exact Markdown.key_eq_of_shows noAsterisk (no_asterisk_identifiers browser key member)
      (Markdown.shows_implementationLine other implementation) shows
  cases isFirst : browser.identifiers.find? record.browsers.contains with
  | none =>
      rw [ofRecord_of_find?_none isFirst]
      refine ⟨isFirst.symm, ?_, iff_of_true rfl ?_, own⟩
      · intro key isSource
        cases isSource
      · intro key member
        have unused : record.browsers.contains key = false :=
          Bool.eq_false_iff.mpr (List.find?_eq_none.mp isFirst key member)
        refine ⟨unused, ?_⟩
        intro paragraph isThere
        rw [Markdown.contains_of_mem_paragraphs isThere] at unused
        cases unused
  | some key =>
      obtain ⟨implementation, isValue, isCell⟩ := ofRecord_of_find? isFirst
      rw [isCell]
      refine ⟨isFirst.symm, ?_, iff_of_false (SupportState.ofAvailability_ne_unknown _) ?_, own⟩
      · intro source isSource
        cases isSource
        refine ⟨Markdown.implementationLine key implementation, ⟨?_, ?_⟩, ?_⟩
        · exact Markdown.mem_paragraphs_iff.mpr ⟨implementation, isValue, rfl⟩
        · intro isSupported version
          rw [Markdown.shows_implementationLine_iff,
            ← SupportState.ofAvailability_eq_supported_iff]
        · rintro paragraph ⟨isThere, _⟩
          obtain ⟨other, isOther, rfl⟩ := Markdown.mem_paragraphs_iff.mp isThere
          rw [isValue] at isOther
          cases isOther
          rfl
      · intro unused
        have isUsed : record.browsers.contains key = true := List.find?_some isFirst
        rw [(unused key (List.mem_of_find?_eq_some isFirst)).1] at isUsed
        cases isUsed

theorem BrowserCell.browser_ofRecord (record : Record) (browser : Browser) :
    (ofRecord record browser).browser = browser := by
  unfold ofRecord
  split <;> rfl

/-- **Summary and Markdown agree on every browser.** Markdown has one paragraph for each identifier
of the record, in their order. The summary has one cell for each browser that it shows; each of them
goes together with the paragraphs, and is the same for all records that agree on the identifiers of
its browser. -/
theorem browsers_agree_in_both_reports (record : Record) :
    Markdown.Lists (Markdown.paragraphs record) record ∧
      (Summary.ofRecord record).browsers.map BrowserCell.browser =
        [.chrome, .firefox, .safari, .edge] ∧
      ∀ cell ∈ (Summary.ofRecord record).browsers,
        cell.AgreesWith record (Markdown.paragraphs record) ∧
          ∀ other : Record, (∀ key ∈ cell.browser.identifiers,
            record.browsers.get? key = other.browsers.get? key) →
            cell ∈ (Summary.ofRecord other).browsers := by
  refine ⟨Markdown.lists_paragraphs record, ?_, ?_⟩
  · rw [Summary.ofRecord, List.map_map]
    exact List.map_id'' (BrowserCell.browser_ofRecord record) Browser.all
  · intro cell member
    obtain ⟨browser, isShown, rfl⟩ := List.mem_map.mp member
    refine ⟨BrowserCell.agreesWith_paragraphs record browser, ?_⟩
    intro other same
    rw [BrowserCell.browser_ofRecord] at same
    rw [BrowserCell.ofRecord_congr same]
    exact List.mem_map_of_mem isShown

end WebCompat
