import Mathlib.Data.List.Nodup
import WebCompat.Proofs.KeyMap
import WebCompat.Proofs.Lookup.Sequence
import WebCompat.Proofs.Scan.Document
import WebCompat.Report.Analysis

/-!
Coherence of an analysis with the lookups that it made.

Owns: the language that each category is judged in, the tokens that a category shows data on, and
that both agree with what was looked up. The tokens to look up are collected over all categories
at once, and what is shown is picked from the batch by each category for itself; that the two
never disagree is what has to be proved.
-/

namespace WebCompat

/-! ## What is worth a lookup -/

namespace TokenKind

/-- The language that the tokens of a category are judged in; selectors are judged in none. -/
def language? : TokenKind → Option DocumentKind
  | .htmlTag => some .html
  | .cssProperty => some .css
  | .jsFunction | .jsVariable => some .javascript
  | .cssSelector => none

/-- Whether a token is recognized in the language of a category. -/
def Recognizes (kind : TokenKind) (token : String) : Prop :=
  ∃ language, kind.language? = some language ∧ Vocabulary.recognizes language token = true

theorem isQueried_iff (kind : TokenKind) (token : String) :
    kind.isQueried token = true ↔ kind.Recognizes token := by
  cases kind <;> simp [isQueried, Recognizes, language?]

end TokenKind

/-- What is looked up are the items that are recognized. -/
theorem TokenSet.mem_queried (set : TokenSet) (token : String) :
    token ∈ set.queried ↔ token ∈ set.items ∧ set.kind.Recognizes token := by
  rw [TokenSet.queried, List.mem_filter, TokenKind.isQueried_iff]

namespace DocumentElements

/-- No token is looked up twice for a document. -/
theorem nodup_queries (elements : DocumentElements) : elements.queries.Nodup :=
  nodup_eraseDups _

/-- What is looked up for a document is what any of its categories asks for. The selectors, which
are left out of the queries, ask for nothing. -/
theorem mem_queries_ofText (kind : DocumentKind) (text : String) (token : String) :
    token ∈ (ofText kind text).queries ↔
      ∃ set ∈ (ofText kind text).sets, token ∈ set.queried := by
  have kinds := kinds_ofText kind text
  generalize ofText kind text = elements at kinds
  have noSelector : token ∉ elements.css.selectors.queried := by
    have isSelector : elements.css.selectors.kind = .cssSelector := by
      simp only [sets, List.map_cons, List.map_nil, TokenKind.all, List.cons.injEq] at kinds
      exact kinds.2.1
    rw [TokenSet.mem_queried, isSelector]
    rintro ⟨_, language, judged, _⟩
    cases judged
  rw [queries, List.mem_eraseDups]
  simp only [List.mem_append, sets, List.mem_cons, List.not_mem_nil, or_false, exists_eq_or_imp,
    exists_eq_left, noSelector, false_or, or_assoc]

end DocumentElements

/-! ## What is shown -/

namespace Category

/-- The fragments of a category: one for each token that is worth a lookup and was looked up. -/
theorem fragment?_ofBatch (tokens : TokenSet) (batch : Batch) (token : String) :
    (ofBatch tokens batch).fragment? token =
      if token ∈ tokens.queried ∧ batch.contains token = true then
        some (.ofRecord? token (batch.get? token) tokens.kind)
      else none := by
  have filled := KeyMap.get?_ofList_map
    (fun token => Fragment.ofRecord? token (batch.get? token) tokens.kind)
    (tokens.queried.filter batch.contains) token
  simp only [List.mem_filter] at filled
  exact filled

/-- A batch of all that a category asks for leaves out none of it. -/
theorem contains_support_ofBatch {tokens : TokenSet} {batch : Batch}
    (complete : ∀ token ∈ tokens.queried, batch.contains token = true) (token : String) :
    (ofBatch tokens batch).support.contains token = true ↔
      token ∈ tokens.items ∧ tokens.kind.Recognizes token := by
  have found := fragment?_ofBatch tokens batch token
  rw [fragment?] at found
  rw [KeyMap.contains, found, ← TokenSet.mem_queried]
  by_cases asked : token ∈ tokens.queried
  · simp [asked, complete token asked]
  · simp [asked]

end Category

/-- Without support a lookup has failed, or it has found no record. -/
theorem Lookup.support_eq_none_iff (made : Lookup) (kind : TokenKind) :
    (Fragment.ofRecord? made.token made.record kind).support = none ↔
      made.isFailed = true ∨ made.outcome = .ok none := by
  obtain ⟨token, outcome, requests⟩ := made
  cases outcome with
  | error error =>
      simp [Fragment.ofRecord?, record, isFailed, Except.toOption, Except.isOk, Except.toBool]
  | ok found =>
      cases found with
      | none =>
          simp [Fragment.ofRecord?, record, isFailed, Except.toOption, Except.isOk, Except.toBool]
      | some found =>
          simp [Fragment.ofRecord?, record, isFailed, Except.toOption, Except.isOk, Except.toBool]

namespace Analysis

theorem categories_ofBatch (kind : DocumentKind) (elements : DocumentElements) (batch : Batch) :
    (ofBatch kind elements batch).categories.map Prod.snd =
      elements.sets.map fun tokens => Category.ofBatch tokens batch :=
  rfl

section Lookups

variable (service : Service) (client : Client) (kind : DocumentKind) (text : String)
  (before : List Request)

/-- The lookups that the analysis of a document makes, in their order. -/
def lookups : List Lookup :=
  Client.lookups service client (DocumentElements.ofText kind text).queries before

theorem map_token_lookups : (lookups service client kind text before).map Lookup.token =
    (DocumentElements.ofText kind text).queries :=
  Client.map_token_lookups service client _ before

/-- What an analysis sends, and how many of its lookups it counts as failed. -/
theorem ofDocument_lookups :
    let made := lookups service client kind text before
    let answer := ofDocument service client kind text before
    answer.1.failedLookups = made.countP Lookup.isFailed ∧
      answer.2 = before ++ made.flatMap Lookup.requests := by
  have distinct := DocumentElements.nodup_queries (DocumentElements.ofText kind text)
  have views := Client.resolveMany_lookups service client
    (DocumentElements.ofText kind text).queries before
  rw [eraseDups_of_nodup distinct] at views
  exact views.2

/-- Every category shows data on its own tokens that are worth a lookup, and on no others. -/
theorem contains_support_ofDocument {category : Category}
    (member : category ∈
      (ofDocument service client kind text before).1.categories.map Prod.snd)
    (token : String) :
    category.support.contains token = true ↔
      token ∈ category.tokens.items ∧ category.tokens.kind.Recognizes token := by
  rw [ofDocument, categories_ofBatch] at member
  obtain ⟨tokens, isSet, rfl⟩ := List.mem_map.mp member
  apply Category.contains_support_ofBatch
  intro asked isAsked
  rw [Client.contains_resolveMany, DocumentElements.mem_queries_ofText]
  exact ⟨tokens, isSet, isAsked⟩

/-- What a category shows on a token is what the lookup of this token has found. -/
theorem exists_lookup_of_fragment? {category : Category}
    (member : category ∈
      (ofDocument service client kind text before).1.categories.map Prod.snd)
    {token : String} {fragment : Fragment} (shown : category.fragment? token = some fragment) :
    ∃ made ∈ lookups service client kind text before,
      made.token = token ∧
        fragment = .ofRecord? token made.record category.tokens.kind := by
  have distinct := DocumentElements.nodup_queries (DocumentElements.ofText kind text)
  rw [ofDocument, categories_ofBatch] at member
  obtain ⟨tokens, _, rfl⟩ := List.mem_map.mp member
  rw [Category.fragment?_ofBatch] at shown
  split at shown
  · rename_i asked
    have isQuery := (Client.contains_resolveMany service client _ before token).mp asked.2
    rw [← map_token_lookups service client kind text before] at isQuery
    obtain ⟨made, isMade, sameToken⟩ := List.mem_map.mp isQuery
    have isFirst : made ∈ Client.lookups service client
        (DocumentElements.ofText kind text).queries.eraseDups before := by
      rw [eraseDups_of_nodup distinct]
      exact isMade
    have record := Client.get?_resolveMany service client isFirst
    rw [sameToken] at record
    rw [record, Option.some.injEq] at shown
    exact ⟨made, isMade, sameToken, shown.symm⟩
  · exact nomatch shown

/-- **An analysis is coherent with its lookups.** The tokens looked up are distinct, and each of
them is shown by some category. A category shows data on its own tokens that are recognized in
its language; no token among them is dropped, and none is taken over from another category. What
it shows on a token is what the lookup of that token found, the same in every category, and there
is no support exactly if that lookup failed or found no match. The failures counted are those of
the lookups. -/
theorem ofDocument_coherent :
    let elements := DocumentElements.ofText kind text
    let made := lookups service client kind text before
    let answer := ofDocument service client kind text before
    let categories := answer.1.categories.map Prod.snd
    answer.2 = before ++ made.flatMap Lookup.requests ∧
      (made.map Lookup.token).Nodup ∧
      (∀ token, token ∈ made.map Lookup.token ↔
        ∃ category ∈ categories, category.support.contains token = true) ∧
      categories.map Category.tokens = elements.sets ∧
      (categories.map Category.tokens).map TokenSet.kind = TokenKind.all ∧
      (∀ category ∈ categories, ∀ token,
        category.support.contains token = true ↔
          token ∈ category.tokens.items ∧ category.tokens.kind.Recognizes token) ∧
      (∀ category ∈ categories, ∀ token fragment, category.fragment? token = some fragment →
        ∃ lookup ∈ made, lookup.token = token ∧
          fragment = .ofRecord? token lookup.record category.tokens.kind ∧
          (fragment.support = none ↔ lookup.isFailed = true ∨ lookup.outcome = .ok none)) ∧
      (∀ first ∈ categories, ∀ second ∈ categories, ∀ token inFirst inSecond,
        first.fragment? token = some inFirst → second.fragment? token = some inSecond →
          inFirst.support = inSecond.support) ∧
      answer.1.failedLookups = made.countP Lookup.isFailed := by
  intro elements made answer categories
  obtain ⟨failed, log⟩ := ofDocument_lookups service client kind text before
  have distinct : (made.map Lookup.token).Nodup := by
    rw [map_token_lookups]
    exact DocumentElements.nodup_queries elements
  have setsShown : categories.map Category.tokens = elements.sets := rfl
  have keys : ∀ category ∈ categories, ∀ token,
      category.support.contains token = true ↔
        token ∈ category.tokens.items ∧ category.tokens.kind.Recognizes token := by
    intro category member token
    exact contains_support_ofDocument service client kind text before member token
  have fragments : ∀ category ∈ categories, ∀ token fragment,
      category.fragment? token = some fragment →
        ∃ lookup ∈ made, lookup.token = token ∧
          fragment = .ofRecord? token lookup.record category.tokens.kind := by
    intro category member token fragment shown
    exact exists_lookup_of_fragment? service client kind text before member shown
  refine ⟨log, distinct, ?_, setsShown, ?_, keys, ?_, ?_, failed⟩
  · intro token
    rw [map_token_lookups, DocumentElements.mem_queries_ofText]
    constructor
    · rintro ⟨tokens, isSet, asked⟩
      rw [← setsShown] at isSet
      obtain ⟨category, member, rfl⟩ := List.mem_map.mp isSet
      refine ⟨category, member, (keys category member token).mpr ?_⟩
      exact (TokenSet.mem_queried _ token).mp asked
    · rintro ⟨category, member, shown⟩
      refine ⟨category.tokens, ?_, ?_⟩
      · rw [← setsShown]
        exact List.mem_map_of_mem member
      · exact (TokenSet.mem_queried _ token).mpr ((keys category member token).mp shown)
  · rw [setsShown]
    exact DocumentElements.kinds_ofText kind text
  · intro category member token fragment shown
    obtain ⟨lookup, isMade, rfl, rfl⟩ := fragments category member token fragment shown
    exact ⟨lookup, isMade, rfl, rfl, lookup.support_eq_none_iff _⟩
  · intro first isFirst second isSecond token inFirst inSecond shownFirst shownSecond
    obtain ⟨one, oneMade, oneToken, rfl⟩ := fragments first isFirst token inFirst shownFirst
    obtain ⟨other, otherMade, otherToken, rfl⟩ :=
      fragments second isSecond token inSecond shownSecond
    -- Both fragments come from a lookup of the same token, and there is only one of these.
    have same : one = other :=
      List.inj_on_of_nodup_map distinct oneMade otherMade (oneToken.trans otherToken.symm)
    rw [same]
    rfl

end Lookups

end Analysis

end WebCompat
