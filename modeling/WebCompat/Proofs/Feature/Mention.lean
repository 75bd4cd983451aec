import WebCompat.Feature.Record
import WebCompat.Proofs.Text.Sigma

/-!
Records that hold a token as it is. A record mentions a token if the lower case of the token stands
in that of its name or identifier, so that a token that stands there as it is should be mentioned
all the more. It is, but for one letter: a capital sigma that is loose in the token may have another
lower case in the record than in the token alone. A token with a loose sigma is passed over in some
record, any other one in none.

Owns: where a token stands in a record; when it is mentioned there; and that the choice among
records does not pass over it then.
-/

namespace WebCompat

namespace Record

/-! ## Tokens in a record -/

/-- Whether a token stands in the name or the identifier of a record as it is. -/
def Contains (record : Record) (token : String) : Prop :=
  token.toList <:+: record.name.toList ∨ token.toList <:+: record.featureId.toList

/-- Whether a token stands in a text as it is, where each of its capital sigmas has the lower case
that it has in the token alone. -/
def StandsAlike (token text : String) : Prop :=
  ∃ before after, text.toList = before ++ token.toList ++ after ∧
    Text.KeepsForms before.reverse token.toList after

/-- Whether a token stands in the name or the identifier of a record so that its lower case does not
change. -/
def ContainsAlike (record : Record) (token : String) : Prop :=
  StandsAlike token record.name ∨ StandsAlike token record.featureId

/-- A record of which no more than its name and its identifier is known. -/
def called (name featureId : String) : Record where
  name := name
  featureId := featureId
  tier := .unknown
  baselineSince := none
  specUrl := none
  browsers := .empty

variable {record : Record} {token text : String}

theorem occursIn_iff :
    occursIn token text = true ↔
      (Text.lowercase token).toList <:+: (Text.lowercase text).toList := by
  rw [occursIn, Text.occursWithin_iff]

private theorem occursIn_of_standsAlike (alike : StandsAlike token text) :
    occursIn token text = true := by
  obtain ⟨before, after, split, keeps⟩ := alike
  exact occursIn_iff.mpr (Text.lowercase_infix_of_keepsForms split keeps)

private theorem standsAlike_of_isInfix (notLoose : ¬ Text.HasLooseSigma token.toList)
    (inside : token.toList <:+: text.toList) : StandsAlike token text := by
  obtain ⟨before, after, split⟩ := inside
  exact ⟨before, after, split.symm, Text.keepsForms_of_not_hasLooseSigma notLoose _ _⟩

/-- A token that stands in a record with its own lower case is mentioned. -/
theorem mentions_of_containsAlike (alike : record.ContainsAlike token) :
    record.mentions token = true := by
  rw [mentions, Bool.or_eq_true]
  rcases alike with inName | inIdentifier
  · exact Or.inl (occursIn_of_standsAlike inName)
  · exact Or.inr (occursIn_of_standsAlike inIdentifier)

/-- A token without a loose sigma keeps its lower case wherever it stands. -/
theorem containsAlike_of_contains (notLoose : ¬ Text.HasLooseSigma token.toList)
    (contains : record.Contains token) : record.ContainsAlike token := by
  rcases contains with inName | inIdentifier
  · exact Or.inl (standsAlike_of_isInfix notLoose inName)
  · exact Or.inr (standsAlike_of_isInfix notLoose inIdentifier)

/-- Some record holds a token with a loose sigma and does not mention it. -/
theorem exists_contains_not_mentions (loose : Text.HasLooseSigma token.toList) :
    ∃ record : Record, record.Contains token ∧ record.mentions token = false := by
  obtain ⟨before, after, outside⟩ := Text.exists_not_infix_of_hasLooseSigma loose
  obtain ⟨text, isText⟩ : ∃ text : String, text.toList = before ++ token.toList ++ after :=
    ⟨_, String.toList_ofList⟩
  have notThere : occursIn token text = false := by
    apply Bool.eq_false_iff.mpr
    intro isThere
    have inside := occursIn_iff.mp isThere
    rw [Text.lowercase, Text.lowercase, String.toList_ofList, String.toList_ofList, isText]
      at inside
    exact outside inside
  refine ⟨called text text, Or.inl ⟨before, after, isText.symm⟩, ?_⟩
  exact Bool.or_eq_false_iff.mpr ⟨notThere, notThere⟩

/-- Which tokens are mentioned wherever they stand. -/
theorem mentions_of_contains_iff :
    (∀ record : Record, record.Contains token → record.mentions token = true) ↔
      ¬ Text.HasLooseSigma token.toList := by
  constructor
  · intro always loose
    obtain ⟨record, contains, notMentioned⟩ := exists_contains_not_mentions loose
    rw [always record contains] at notMentioned
    cases notMentioned
  · intro notLoose record contains
    exact mentions_of_containsAlike (containsAlike_of_contains notLoose contains)

end Record

/-! ## The choice among records -/

/-- Whether a record is the first one of several that mentions a token. -/
def IsFirstMention (token : String) (candidates : List Record) (best : Record) : Prop :=
  best.mentions token = true ∧ ∃ front back, candidates = front ++ best :: back ∧
    ∀ other ∈ front, other.mentions token = false

theorem find?_eq_some_iff_isFirstMention {token : String} {candidates : List Record}
    {best : Record} :
    candidates.find? (fun record => record.mentions token) = some best ↔
      IsFirstMention token candidates best := by
  simp [List.find?_eq_some_iff_append, IsFirstMention]

/-- If records mention a token, the first of them is chosen. -/
theorem selectBestMatch_of_mentions {token : String} {candidates : List Record}
    (mentioned : ∃ record ∈ candidates, record.mentions token = true) :
    ∃ best, selectBestMatch token candidates = some best ∧
      IsFirstMention token candidates best := by
  obtain ⟨best, isFound⟩ := Option.isSome_iff_exists.mp (List.find?_isSome.mpr mentioned)
  refine ⟨best, ?_, find?_eq_some_iff_isFirstMention.mp isFound⟩
  rw [selectBestMatch, isFound, Option.some_or]

/-- If no record mentions a token, the first record of all is chosen. -/
theorem selectBestMatch_of_not_mentions {token : String} {candidates : List Record}
    (unmentioned : ∀ record ∈ candidates, record.mentions token = false) :
    selectBestMatch token candidates = candidates.head? := by
  have notFound : candidates.find? (fun record => record.mentions token) = none := by
    rw [List.find?_eq_none]
    intro record member mentioned
    rw [unmentioned record member] at mentioned
    cases mentioned
  rw [selectBestMatch, notFound, Option.none_or]

/-- **A token that stands in a record as it is is overlooked for a loose sigma only.** A token is
mentioned wherever it stands in a record with its capital sigmas in the lower case of the token
alone; and it is mentioned wherever it stands at all exactly if it has no loose sigma. Of several
records, one of which holds the token so, the best match is the first that mentions it; only where
none mentions it is it the first of all. -/
theorem selectBestMatch_keeps_literal_matches (token : String) :
    ((∀ record : Record, record.Contains token → record.mentions token = true) ↔
      ¬ Text.HasLooseSigma token.toList) ∧
      (∀ record : Record, record.ContainsAlike token → record.mentions token = true) ∧
      (∀ candidates : List Record,
        (∃ record ∈ candidates, record.ContainsAlike token ∨
          record.Contains token ∧ ¬ Text.HasLooseSigma token.toList) →
        ∃ best, selectBestMatch token candidates = some best ∧
          IsFirstMention token candidates best) ∧
      ∀ candidates : List Record, (∀ record ∈ candidates, record.mentions token = false) →
        selectBestMatch token candidates = candidates.head? := by
  refine ⟨Record.mentions_of_contains_iff, fun _ => Record.mentions_of_containsAlike, ?_,
    fun _ => selectBestMatch_of_not_mentions⟩
  rintro candidates ⟨record, member, alike | ⟨contains, notLoose⟩⟩
  · exact selectBestMatch_of_mentions ⟨record, member, Record.mentions_of_containsAlike alike⟩
  · exact selectBestMatch_of_mentions
      ⟨record, member, Record.mentions_of_contains_iff.mpr notLoose record contains⟩

/-- A word that ends with a sigma, at the end of a word of the second record. -/
theorem selectBestMatch_finds_final_sigma :
    let candidates := [Record.called "Subgrid" "subgrid", Record.called "Η ΟΔΟΣ ΜΟΥ" "odos"]
    (∃ record ∈ candidates, record.ContainsAlike "ΟΔΟΣ") ∧
      ∃ best, selectBestMatch "ΟΔΟΣ" candidates = some best ∧
        IsFirstMention "ΟΔΟΣ" candidates best := by
  intro candidates
  have alike : (Record.called "Η ΟΔΟΣ ΜΟΥ" "odos").ContainsAlike "ΟΔΟΣ" := by
    have split : "Η ΟΔΟΣ ΜΟΥ".toList = "Η ".toList ++ "ΟΔΟΣ".toList ++ " ΜΟΥ".toList := by
      decide +kernel
    exact Or.inl ⟨_, _, split, Text.lowercaseBetween_eq_lowercaseAfter_iff.mp (by decide +kernel)⟩
  have member : Record.called "Η ΟΔΟΣ ΜΟΥ" "odos" ∈ candidates :=
    List.mem_cons_of_mem _ List.mem_cons_self
  exact ⟨⟨_, member, alike⟩, (selectBestMatch_keeps_literal_matches "ΟΔΟΣ").2.2.1 candidates
    ⟨_, member, Or.inl alike⟩⟩

/-- A token that ends with a sigma is not found where the word goes on, although it stands there as
it is; the first record is taken instead. -/
theorem selectBestMatch_overlooks_loose_sigma :
    (Record.called "ΑΣΑ" "x").Contains "ΑΣ" ∧ (Record.called "ΑΣΑ" "x").mentions "ΑΣ" = false ∧
      (selectBestMatch "ΑΣ" [Record.called "Subgrid" "subgrid", Record.called "ΑΣΑ" "x"]).map
        Record.name = some "Subgrid" := by
  have split : [] ++ "ΑΣ".toList ++ "Α".toList = "ΑΣΑ".toList := by decide +kernel
  refine ⟨Or.inl ⟨_, _, split⟩, ?_, ?_⟩
  · decide +kernel
  · decide +kernel

end WebCompat
