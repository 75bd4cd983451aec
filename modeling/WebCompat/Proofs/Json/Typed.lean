import WebCompat.Json.Typed
import WebCompat.Proofs.Json.Document

/-!
Readers of values of an expected kind. What each of them means to a tree is said by cases on the
tree, and the readers that have parts go by trees if their parts do.

Owns: what texts, lists, tables, options and variants are in trees; that their readers go by that;
and the meaning that a reader has by itself.
-/

namespace WebCompat.Json

open Reader (take?)

variable {α β : Type}

/-! ## What a reader means to a tree -/

/-- What a reader makes of a tree: of the tokens of the tree without white space, if it takes all
of them. -/
def Reader.on (reader : Reader α) (tree : Tree) : Option α :=
  (take? reader tree.tokens.flatten).bind fun taken =>
    if taken.2.isEmpty then some taken.1 else none

theorem Reader.on_map (f : α → β) (reader : Reader α) (tree : Tree) :
    (Reader.map f reader).on tree = (reader.on tree).map f := by
  unfold on
  rw [take?_map]
  cases take? reader tree.tokens.flatten with
  | none => rfl
  | some taken =>
      simp only [Option.map_some, Option.bind_some]
      split <;> rfl

theorem after?_flatten {tokens : List (List Char)} (areTokens : ∀ token ∈ tokens, IsToken token) :
    after? tokens tokens.flatten = some [] := by
  induction tokens with
  | nil => rfl
  | cons token tokens inductionHypothesis =>
      rw [List.forall_mem_cons] at areTokens
      obtain ⟨c, more, rfl, notSpace⟩ := areTokens.1.begins
      refine after?_cons_eq_some_iff.mpr ⟨tokens.flatten, ?_, inductionHypothesis areTokens.2⟩
      rw [List.flatten_cons, List.cons_append, skipSpace_of_head notSpace]

theorem breaks_nil : Breaks [] :=
  nofun

/-- A reader that goes by trees means to them what it makes of them. -/
theorem Reads.on_eq {reader : Reader α} {meaning : Tree → Option α} (reads : Reads reader meaning)
    (tree : Tree) : reader.on tree = meaning tree := by
  have begins : after? tree.tokens tree.tokens.flatten = some [] := after?_flatten tree.isToken
  have ends := tree.endsAt_of_breaks breaks_nil
  rw [Option.ext_iff]
  intro value
  constructor
  · intro isMade
    obtain ⟨⟨found, rest⟩, taken, settled⟩ := Option.bind_eq_some_iff.mp isMade
    split at settled
    · rename_i isEmpty
      cases List.isEmpty_iff.mp isEmpty
      cases settled
      obtain ⟨other, alsoBegins, means⟩ := reads.sound taken
      obtain ⟨rfl, _⟩ :=
        Tree.eq_of_after? begins ends alsoBegins (other.endsAt_of_breaks breaks_nil)
      exact means
    · cases settled
  · intro means
    rw [Reader.on, reads.complete begins ends means]
    rfl

/-- A reader that goes by trees in some way goes by what it makes of them. -/
theorem Reads.on {reader : Reader α} {meaning : Tree → Option α} (reads : Reads reader meaning) :
    Reads reader reader.on := by
  rw [funext reads.on_eq]
  exact reads

/-! ## Texts, lists and tables -/

/-- Readers that look for an opening mark and go on behind it. -/
theorem take?_opened {opening : Char} {inside body : Reader α}
    (opens : ∀ behind, take? body (opening :: behind) = take? inside behind)
    (otherwise : ∀ text, (∀ behind, text ≠ opening :: behind) → take? body text = none)
    {text rest : List Char} {value : α} :
    take? (Reader.afterSpace body) text = some (value, rest) ↔
      ∃ behind, skipSpace text = opening :: behind ∧ take? inside behind = some (value, rest) := by
  rw [Reader.take?_afterSpace]
  by_cases isOpened : ∃ behind, skipSpace text = opening :: behind
  · obtain ⟨behind, split⟩ := isOpened
    simp [split, opens]
  · rw [not_exists] at isOpened
    simp [isOpened, otherwise _ isOpened]

/-- Readers that look for one of two opening marks. -/
theorem take?_openedEither {first second : Char} (different : first ≠ second)
    {inside insideOther body : Reader α}
    (opensFirst : ∀ behind, take? body (first :: behind) = take? inside behind)
    (opensSecond : ∀ behind, take? body (second :: behind) = take? insideOther behind)
    (otherwise : ∀ text, (∀ behind, text ≠ first :: behind) → (∀ behind, text ≠ second :: behind) →
      take? body text = none)
    {text rest : List Char} {value : α} :
    take? (Reader.afterSpace body) text = some (value, rest) ↔
      (∃ behind, skipSpace text = first :: behind ∧ take? inside behind = some (value, rest)) ∨
        ∃ behind, skipSpace text = second :: behind ∧
          take? insideOther behind = some (value, rest) := by
  rw [Reader.take?_afterSpace]
  by_cases isFirst : ∃ behind, skipSpace text = first :: behind
  · obtain ⟨behind, split⟩ := isFirst
    simp [split, opensFirst, different]
  · rw [not_exists] at isFirst
    by_cases isSecond : ∃ behind, skipSpace text = second :: behind
    · obtain ⟨behind, split⟩ := isSecond
      simp [split, opensSecond, different.symm]
    · rw [not_exists] at isSecond
      simp [isFirst, isSecond, otherwise _ isFirst isSecond]

/-- What a reader that asks for a mark makes of a text without it. -/
theorem take?_eq_none_of_ne {body : Reader α} {opening : Char} (atEnd : take? body [] = none)
    (otherwise : ∀ c behind, c ≠ opening → take? body (c :: behind) = none) (text : List Char)
    (notOpened : ∀ behind, text ≠ opening :: behind) : take? body text = none := by
  cases text with
  | nil => exact atEnd
  | cons c behind => exact otherwise c behind fun same => notOpened behind (same ▸ rfl)

theorem take?_text {expected : String} {text rest : List Char} {value : String} :
    take? (Json.text expected) text = some (value, rest) ↔
      ∃ behind, skipSpace text = '"' :: behind ∧ take? quotedText behind = some (value, rest) := by
  refine take?_opened (fun behind => ?_)
    (take?_eq_none_of_ne rfl fun c behind different => by simp [take?, different])
  unfold take?
  dsimp only
  rw [if_pos rfl]
  cases quotedText behind <;> rfl

theorem take?_list {item : Reader α} {text rest : List Char} {values : List α} :
    take? (list item) text = some (values, rest) ↔
      ∃ behind, skipSpace text = '[' :: behind ∧
        take? (items keptList item) behind = some (values, rest) := by
  refine take?_opened (fun behind => ?_)
    (take?_eq_none_of_ne rfl fun c behind different => by simp [take?, different])
  unfold take?
  dsimp only
  rw [if_pos rfl]
  cases items keptList item behind <;> rfl

theorem take?_table {value : Reader α} {text rest : List Char} {values : List (String × α)} :
    take? (table value) text = some (values, rest) ↔
      ∃ behind, skipSpace text = '\x7b' :: behind ∧
        take? (members keptObject quotedText value) behind = some (values, rest) := by
  refine take?_opened (fun behind => ?_)
    (take?_eq_none_of_ne rfl fun c behind different => by simp [take?, different])
  unfold take?
  dsimp only
  rw [if_pos rfl]
  cases members keptObject quotedText value behind <;> rfl

def Tree.string? : Tree → Option String
  | .text pieces => Json.string? pieces
  | _ => none

/-- A text is read from the tree of a quotation. -/
theorem text_reads (expected : String) : Reads (text expected) Tree.string? where
  sound := by
    intro text value rest taken
    obtain ⟨behind, split, isQuoted⟩ := take?_text.mp taken
    obtain ⟨pieces, rfl, denotes⟩ := quotedText_reads.sound isQuoted
    exact ⟨.text pieces, after?_quotation.mpr ⟨rest, split, rfl⟩, denotes⟩
  complete := by
    intro tree text value rest begins _ means
    cases tree with
    | text pieces =>
        obtain ⟨behind, split, left⟩ := after?_quotation.mp begins
        cases left
        exact take?_text.mpr ⟨_, split, quotedText_reads.complete means rest⟩
    | null | bool | number | list | object => cases means

section Containers

variable {reader : Reader α} {meaning : Tree → Option α} (reads : Reads reader meaning)

def Tree.list? (meaning : Tree → Option α) : Tree → Option (List α)
  | .list items => items.mapM meaning
  | _ => none

def Tree.table? (meaning : Tree → Option α) : Tree → Option (List (String × α))
  | .object members => members.mapM (memberOf Json.string? meaning)
  | _ => none

include reads

/-- A list goes by its items. -/
theorem list_reads : Reads (list reader) (Tree.list? meaning) where
  sound := by
    intro text value rest taken
    obtain ⟨behind, split, areItems⟩ := take?_list.mp taken
    obtain ⟨items, begins, mean⟩ := (take?_items (.inl rfl) reads).mp areItems
    refine ⟨.list items, ?_, mean⟩
    rw [Tree.tokens, Tree.itemTokens_eq_map]
    exact after?_cons_eq_some_iff.mpr ⟨behind, split, begins⟩
  complete := by
    intro tree text value rest begins _ means
    cases tree with
    | list items =>
        rw [Tree.tokens, Tree.itemTokens_eq_map] at begins
        obtain ⟨behind, split, later⟩ := after?_cons_eq_some_iff.mp begins
        refine take?_list.mpr ⟨behind, split, ?_⟩
        exact (take?_items (.inl rfl) reads).mpr ⟨items, later, means⟩
    | null | bool | number | text | object => cases means

/-- A table goes by its members. -/
theorem table_reads : Reads (table reader) (Tree.table? meaning) where
  sound := by
    intro text value rest taken
    obtain ⟨behind, split, areMembers⟩ := take?_table.mp taken
    obtain ⟨members, begins, mean⟩ :=
      (take?_members (.inr rfl) reads quotedText_reads).mp areMembers
    refine ⟨.object members, ?_, mean⟩
    rw [Tree.tokens, Tree.memberTokens_eq_map]
    exact after?_cons_eq_some_iff.mpr ⟨behind, split, begins⟩
  complete := by
    intro tree text value rest begins _ means
    cases tree with
    | object members =>
        rw [Tree.tokens, Tree.memberTokens_eq_map] at begins
        obtain ⟨behind, split, later⟩ := after?_cons_eq_some_iff.mp begins
        refine take?_table.mpr ⟨behind, split, ?_⟩
        exact (take?_members (.inr rfl) reads quotedText_reads).mpr ⟨members, later, means⟩
    | null | bool | number | text | list => cases means

end Containers

/-! ## Options and variants -/

/-- What a tree is that may be null. -/
def Tree.optional? (meaning : Tree → Option α) : Tree → Option (Option α)
  | .null => some none
  | tree => (meaning tree).map some

theorem Tree.optional?_of_ne {meaning : Tree → Option α} {tree : Tree}
    (notNull : tree.kind ≠ .null) :
    tree.optional? meaning = (meaning tree).map some := by
  cases tree with
  | null => exact absurd rfl notNull
  | bool | number | text | list | object => rfl

theorem take?_optional_of_null (value : Reader α) {text rest : List Char}
    (split : skipSpace text = 'n' :: rest) :
    take? (optional value) text =
      (take? (word 'n' ['u', 'l', 'l']) ('n' :: rest)).map fun taken => (none, taken.2) := by
  rw [optional, Reader.take?_afterSpace, split]
  exact Reader.take?_map _ _ _

theorem take?_optional_of_ne (value : Reader α) {text : List Char}
    (notNull : ∀ rest, skipSpace text ≠ 'n' :: rest) :
    take? (optional value) text =
      (take? value (skipSpace text)).map fun taken => (some taken.1, taken.2) := by
  rw [optional, Reader.take?_afterSpace, ← Reader.take?_map]
  revert notNull
  generalize skipSpace text = skipped
  intro notNull
  apply Reader.take?_congr
  split
  · exact absurd rfl (notNull _)
  · rfl

/-- A value that may be null goes by its tree. -/
theorem optional_reads {reader : Reader α} {meaning : Tree → Option α}
    (reads : Reads reader meaning) : Reads (optional reader) (Tree.optional? meaning) where
  sound := by
    intro text value rest taken
    by_cases isNull : ∃ rest, skipSpace text = 'n' :: rest
    · obtain ⟨behind, split⟩ := isNull
      rw [take?_optional_of_null reader split] at taken
      obtain ⟨⟨⟨⟩, _⟩, isWord, same⟩ := Option.map_eq_some_iff.mp taken
      cases same
      exact ⟨.null, after?_single.mpr (split.trans (take?_word.mp isWord)), rfl⟩
    · rw [take?_optional_of_ne reader (not_exists.mp isNull)] at taken
      obtain ⟨⟨found, _⟩, isFound, same⟩ := Option.map_eq_some_iff.mp taken
      cases same
      obtain ⟨tree, begins, means⟩ := reads.sound isFound
      rw [after?_skipSpace tree.tokens_ne_nil] at begins
      refine ⟨tree, begins, ?_⟩
      rw [Tree.optional?_of_ne, means]
      · rfl
      · intro kindNull
        obtain ⟨c, behind, split, isKind⟩ := Tree.exists_of_after? begins
        rw [kindNull] at isKind
        exact isNull ⟨behind, by rw [split, eq_of_kindOf?_null isKind]⟩
  complete := by
    intro tree text value rest begins ends means
    by_cases isNull : tree.kind = .null
    · cases tree with
      | null =>
          cases means
          have split : skipSpace text = 'n' :: ['u', 'l', 'l'] ++ rest := after?_single.mp begins
          have isWord : take? (word 'n' ['u', 'l', 'l']) ('n' :: ['u', 'l', 'l'] ++ rest) =
              some ((), rest) := take?_word.mpr rfl
          rw [take?_optional_of_null reader split]
          exact congrArg (Option.map _) isWord
      | bool | number | text | list | object => cases isNull
    · rw [Tree.optional?_of_ne isNull] at means
      obtain ⟨found, isFound, rfl⟩ := Option.map_eq_some_iff.mp means
      obtain ⟨c, behind, split, isKind⟩ := Tree.exists_of_after? begins
      have notNull : ∀ rest, skipSpace text ≠ 'n' :: rest := by
        intro rest isN
        obtain ⟨rfl, _⟩ := List.cons.inj (split.symm.trans isN)
        exact isNull (Option.some.inj isKind).symm
      rw [← after?_skipSpace tree.tokens_ne_nil] at begins
      rw [take?_optional_of_ne reader notNull, reads.complete begins ends isFound]
      rfl

section Variants

variable {known : List (String × α)}

/-- The variant that a tree names: a text with its name, or an object with its name for the only
key and the value null. -/
def Tree.variant? (known : List (String × α)) : Tree → Option α
  | .text pieces => (Json.string? pieces).bind fun name => known.lookup name
  | .object [(key, .null)] => (Json.string? key).bind fun name => known.lookup name
  | _ => none

private theorem toOption_variant (name : String) :
    (variant known name).toOption = known.lookup name := by
  unfold variant
  cases known.lookup name <;> rfl

/-- The name of a variant, from after its opening quote. -/
theorem take?_judge_variant {text rest : List Char} {value : α} :
    take? (Reader.judge quotedText (variant known)) text = some (value, rest) ↔
      ∃ pieces, text = inner pieces ++ '"' :: rest ∧
        ((string? pieces).bind fun name => known.lookup name) = some value := by
  simp only [Reader.take?_judge, toOption_variant, Option.bind_eq_some_iff, Option.map_eq_some_iff]
  constructor
  · rintro ⟨⟨name, _⟩, isQuoted, _, isKnown, same⟩
    cases same
    obtain ⟨pieces, split, denotes⟩ := quotedText_reads.sound isQuoted
    exact ⟨pieces, split, name, denotes, isKnown⟩
  · rintro ⟨pieces, rfl, name, denotes, isKnown⟩
    exact ⟨(name, rest), quotedText_reads.complete denotes rest, value, isKnown, rfl⟩

theorem take?_variantName (behind : List Char) :
    take? (variantName known) ('"' :: behind) =
      take? (Reader.judge quotedText (variant known)) behind := by
  have same : take? (Json.text "variant identifier") ('"' :: behind) = take? quotedText behind := by
    rw [Option.ext_iff]
    rintro ⟨value, rest⟩
    have opens : skipSpace ('"' :: behind) = '"' :: behind := skipSpace_of_head (by decide)
    rw [take?_text]
    simp [opens]
  rw [variantName, Reader.take?_judge, Reader.take?_judge, same]

theorem take?_variantKey {text rest : List Char} {value : α} :
    take? (variantKey known) text = some (value, rest) ↔
      ∃ behind, skipSpace text = '"' :: behind ∧
        take? (Reader.judge quotedText (variant known)) behind = some (value, rest) := by
  unfold variantKey
  refine take?_opened (fun behind => ?_) fun text notQuote => ?_
  · exact take?_variantName behind
  · apply Reader.take?_eq_none
    split
    · exact ⟨_, rfl⟩
    · exact absurd rfl (notQuote _)
    · exact ⟨_, rfl⟩
    · exact ⟨_, rfl⟩

theorem take?_unit {text rest : List Char} :
    take? unit text = some ((), rest) ↔ skipSpace text = ['n', 'u', 'l', 'l'] ++ rest := by
  have opened : take? unit text = some ((), rest) ↔
      ∃ behind, skipSpace text = 'n' :: behind ∧
        take? (word 'u' ['l', 'l']) behind = some ((), rest) := by
    unfold unit
    refine take?_opened (fun behind => ?_) fun text notNull => ?_
    · show take? (word 'n' ['u', 'l', 'l']) ('n' :: behind) = _
      rw [Option.ext_iff]
      rintro ⟨⟨⟩, rest⟩
      simp [take?_word]
    · apply Reader.take?_eq_none
      split
      · exact ⟨_, rfl⟩
      · exact absurd rfl (notNull _)
      · exact ⟨_, rfl⟩
  rw [opened]
  simp [take?_word]

theorem take?_closeSingle {text rest : List Char} :
    take? closeSingle text = some ((), rest) ↔ skipSpace text = '\x7d' :: rest := by
  rw [closeSingle, Reader.take?_afterSpace]
  cases skipSpace text with
  | nil => simp [take?]
  | cons c behind => by_cases isBrace : c = '\x7d' <;> simp [take?, isBrace]

/-- The object with a variant for its only key, from after its brace. -/
def singleKey (known : List (String × α)) : Reader α :=
  Reader.bind (variantKey known) fun value =>
    Reader.bind colon fun _ => Reader.bind unit fun _ => Reader.map (fun _ => value) closeSingle

theorem take?_oneOf {text rest : List Char} {value : α} :
    take? (oneOf known) text = some (value, rest) ↔
      (∃ behind, skipSpace text = '"' :: behind ∧
        take? (Reader.judge quotedText (variant known)) behind = some (value, rest)) ∨
      ∃ behind, skipSpace text = '\x7b' :: behind ∧
        take? (singleKey known) behind = some (value, rest) := by
  unfold oneOf
  refine take?_openedEither (by decide) (fun behind => ?_) (fun behind => ?_)
    fun text notQuote notBrace => ?_
  · exact take?_variantName behind
  · exact Reader.take?_eq_of_widened Text.length_le_cons rfl
  · apply Reader.take?_eq_none
    split
    · exact ⟨_, rfl⟩
    · exact absurd rfl (notQuote _)
    · exact absurd rfl (notBrace _)
    · exact ⟨_, rfl⟩

theorem take?_singleKey {text rest : List Char} {value : α} :
    take? (singleKey known) text = some (value, rest) ↔
      ∃ pieces, after? (entryTokens '\x7d' [Tree.ofMember (pieces, .null)]) text = some rest ∧
        ((string? pieces).bind fun name => known.lookup name) = some value := by
  simp only [singleKey, Reader.take?_bind, Reader.take?_map, Option.bind_eq_some_iff,
    Option.map_eq_some_iff]
  constructor
  · rintro ⟨⟨_, _⟩, isName, ⟨⟨⟩, _⟩, isColon, ⟨⟨⟩, _⟩, isNull, ⟨⟨⟩, _⟩, isClosed, same⟩
    cases same
    obtain ⟨_, split, named⟩ := take?_variantKey.mp isName
    obtain ⟨pieces, rfl, isKnown⟩ := take?_judge_variant.mp named
    refine ⟨pieces, after?_quotation.mpr ⟨_, split, ?_⟩, Option.bind_eq_some_iff.mp isKnown⟩
    refine after?_cons_eq_some_iff.mpr ⟨_, take?_mark_eq_some_iff.mp isColon, ?_⟩
    refine after?_cons_eq_some_iff.mpr ⟨_, take?_unit.mp isNull, ?_⟩
    exact after?_single.mpr (take?_closeSingle.mp isClosed)
  · rintro ⟨pieces, begins, isKnown⟩
    obtain ⟨behind, split, atColon⟩ := after?_quotation.mp begins
    obtain ⟨afterColon, isColon, atNull⟩ := after?_cons_eq_some_iff.mp atColon
    obtain ⟨afterNull, isNull, atEnd⟩ := after?_cons_eq_some_iff.mp atNull
    have named : take? (Reader.judge quotedText (variant known)) _ = some (value, behind) :=
      take?_judge_variant.mpr ⟨pieces, rfl, Option.bind_eq_some_iff.mpr isKnown⟩
    exact ⟨(value, behind), take?_variantKey.mpr ⟨_, split, named⟩, ((), afterColon),
      take?_mark_eq_some_iff.mpr isColon, ((), afterNull), take?_unit.mpr isNull, ((), rest),
      take?_closeSingle.mpr (after?_single.mp atEnd), rfl⟩

/-- A named variant goes by its tree, in either of its two forms. -/
theorem oneOf_reads (known : List (String × α)) : Reads (oneOf known) (Tree.variant? known) where
  sound := by
    intro text value rest taken
    rcases take?_oneOf.mp taken with ⟨behind, split, named⟩ | ⟨behind, split, isSingle⟩
    · obtain ⟨pieces, rfl, isKnown⟩ := take?_judge_variant.mp named
      exact ⟨.text pieces, after?_quotation.mpr ⟨rest, split, rfl⟩, isKnown⟩
    · obtain ⟨pieces, begins, isKnown⟩ := take?_singleKey.mp isSingle
      exact ⟨.object [(pieces, .null)],
        after?_cons_eq_some_iff.mpr ⟨behind, split, begins⟩, isKnown⟩
  complete := by
    intro tree text value rest begins _ means
    unfold Tree.variant? at means
    split at means
    · obtain ⟨behind, split, left⟩ := after?_quotation.mp begins
      cases left
      exact take?_oneOf.mpr (.inl ⟨_, split, take?_judge_variant.mpr ⟨_, rfl, means⟩⟩)
    · obtain ⟨behind, split, later⟩ := after?_cons_eq_some_iff.mp begins
      exact take?_oneOf.mpr (.inr ⟨_, split, take?_singleKey.mpr ⟨_, later, means⟩⟩)
    · cases means

end Variants

end WebCompat.Json
