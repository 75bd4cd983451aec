import WebCompat.Json.Schema
import WebCompat.Proofs.Json.Typed

/-!
Structures in trees: objects, whose members are put into the fields one after another, and lists of
the fields in their order. If the readers of the fields go by trees, so does the reader of the
structure.

Owns: what a structure is in a tree, member by member and item by item; and that its reader goes by
that.
-/

namespace WebCompat.Json

open Reader (take?)

variable {σ α : Type}

/-! ## Structures in trees -/

/-- What the value of a field does to the fields read so far. -/
def Field.put (field : Field σ) (state : σ) (tree : Tree) : Option σ :=
  (field.reader.on tree).bind fun fit => fit.toOption.map fun update => update state

namespace Schema

variable (schema : Schema σ α)

/-- What the value under a name does: a known field is given once, anything else has no effect. -/
def valueOf (state : σ) (name : String) (tree : Tree) : Option σ :=
  match schema.fields.find? fun field => field.name == name with
  | none => some state
  | some field => if field.isGiven state then none else field.put state tree

/-- What a member does. -/
def step (state : σ) (member : List Piece × Tree) : Option σ :=
  (string? member.1).bind fun name => schema.valueOf state name member.2

/-- What the items of a list do, each to one of the remaining fields. -/
def putItems : List (Field σ) → σ → List Tree → Option σ
  | _, state, [] => some state
  | [], _, _ :: _ => none
  | field :: fields, state, item :: items =>
      (field.put state item).bind fun next => putItems fields next items

/-- The fields that a tree gives. -/
def stateOf : Tree → Option σ
  | .list items => putItems schema.fields schema.empty items
  | .object members => members.foldlM schema.step schema.empty
  | _ => none

/-- The structure with given fields, if none is missing. -/
def built (state : σ) : Option α :=
  (schema.build state).toOption

/-- The structure that a tree is. -/
def ofTree (tree : Tree) : Option α :=
  (schema.stateOf tree).bind schema.built

/-! ## Fields -/

theorem take?_fieldValue (close : List Char → List Char) (field : Field σ) (state : σ)
    (text : List Char) :
    take? (fieldValue close field state) text =
      (take? field.reader text).bind fun taken =>
        taken.1.toOption.map fun update => (update state, taken.2) := by
  unfold take? fieldValue
  cases field.reader text with
  | error fault => rfl
  | ok taken =>
      dsimp only [Option.bind_some]
      cases taken.value <;> rfl

theorem fieldValue_reads (close : List Char → List Char) {field : Field σ}
    (reads : Reads field.reader field.reader.on) (state : σ) :
    Reads (fieldValue close field state) (field.put state) where
  sound := by
    intro text next rest taken
    rw [take?_fieldValue] at taken
    obtain ⟨⟨fit, _⟩, isFit, updated⟩ := Option.bind_eq_some_iff.mp taken
    obtain ⟨update, isUpdate, same⟩ := Option.map_eq_some_iff.mp updated
    cases same
    obtain ⟨tree, begins, means⟩ := reads.sound isFit
    refine ⟨tree, begins, ?_⟩
    rw [Field.put, means, Option.bind_some, isUpdate]
    rfl
  complete := by
    intro tree text next rest begins ends means
    obtain ⟨fit, isFit, updated⟩ := Option.bind_eq_some_iff.mp means
    obtain ⟨update, isUpdate, rfl⟩ := Option.map_eq_some_iff.mp updated
    rw [take?_fieldValue, reads.complete begins ends isFit, Option.bind_some, isUpdate]
    rfl

variable {schema}

theorem toOption_mapError {ε ε' : Type} (f : ε → ε') (result : Except ε α) :
    (result.mapError f).toOption = result.toOption := by
  cases result <;> rfl

/-! ## Objects -/

/-- What is read behind the colon of a member. -/
def behindColon (schema : Schema σ α) (state : σ) (name : String) : Reader σ :=
  match schema.fields.find? fun field => field.name == name with
  | none => Reader.map (fun _ => state) skip
  | some field =>
      if field.isGiven state then fun text => .error (.before (.duplicateField name) text)
      else fieldValue afterBrace field state

theorem take?_member (state : σ) (text : List Char) :
    take? (schema.member state) text =
      (take? (key quotedText) text).bind fun named =>
        (take? colon named.2).bind fun marked =>
          take? (schema.behindColon state named.1) marked.2 := by
  rw [member, Reader.take?_bind]
  congr 1
  funext ⟨name, behind⟩
  dsimp only
  unfold memberValue behindColon
  cases schema.fields.find? fun field => field.name == name with
  | none => rw [Reader.take?_bind]
  | some field =>
      dsimp only
      by_cases given : field.isGiven state
      · rw [if_pos given, Reader.take?_eq_none ⟨_, if_pos given⟩]
        cases take? colon behind <;> rfl
      · rw [if_neg given, Reader.take?_congr (if_neg given), Reader.take?_bind]

section Objects

variable (readFields : ∀ field ∈ schema.fields, Reads field.reader field.reader.on)

include readFields

theorem behindColon_reads (state : σ) (name : String) :
    Reads (schema.behindColon state name) (schema.valueOf state name) := by
  unfold behindColon valueOf
  cases isFound : schema.fields.find? fun field => field.name == name with
  | none => exact map_reads skip_reads fun _ => state
  | some field =>
      have isField : field ∈ schema.fields := List.mem_of_find?_eq_some isFound
      dsimp only
      by_cases given : field.isGiven state
      · simp only [if_pos given]
        exact ⟨nofun, nofun⟩
      · simp only [if_neg given]
        exact fieldValue_reads afterBrace (readFields field isField) state

/-- The members of a structure go by their tokens, each being a step. -/
theorem member_reads : EntryReads keptObject.closing schema.member Tree.ofMember schema.step :=
  keyed_reads (.inr rfl) quotedText_reads (behindColon_reads readFields) take?_member

theorem take?_ofObject {text rest : List Char} {value : α} :
    take? schema.ofObject text = some (value, rest) ↔
      ∃ members : List (List Piece × Tree),
        after? (entryTokens '\x7d' (members.map Tree.ofMember)) text = some rest ∧
          schema.ofTree (.object members) = some value := by
  have reads := member_reads readFields
  simp only [ofObject, Reader.take?_judge, toOption_mapError, Option.bind_eq_some_iff,
    Option.map_eq_some_iff]
  constructor
  · rintro ⟨⟨state, _⟩, areMembers, _, isBuilt, same⟩
    cases same
    obtain ⟨members, begins, leads⟩ := exists_of_entries reads areMembers
    exact ⟨members, begins, by rw [ofTree, stateOf, leads, Option.bind_some]; exact isBuilt⟩
  · rintro ⟨members, begins, means⟩
    obtain ⟨state, leads, isBuilt⟩ := Option.bind_eq_some_iff.mp means
    exact ⟨(state, rest), take?_entries_of_after? reads (.inr rfl) begins leads, value, isBuilt,
      rfl⟩

end Objects

/-! ## Lists -/

theorem take?_listEnd (text : List Char) :
    take? listEnd text =
      match skipSpace text with
      | [] => none
      | c :: rest => if c = ']' then some ((), rest) else none := by
  rw [listEnd, Reader.take?_afterSpace]
  cases skipSpace text with
  | nil => rfl
  | cons c behind =>
      by_cases isBracket : c = ']'
      · simp [take?, isBracket]
      · rw [Reader.take?_eq_none]
        · simp [isBracket]
        · dsimp only
          rw [if_neg isBracket]
          split_ifs
          · split <;> exact ⟨_, rfl⟩
          · exact ⟨_, rfl⟩

private theorem shortList_toOption (state : σ) (rest : List Char) :
    (schema.shortList state rest).toOption = schema.built state :=
  toOption_mapError _ _

theorem take?_moreFields (fields : List (Field σ)) (state : σ) (text : List Char) :
    take? (schema.moreFields fields state) text =
      match skipSpace text with
      | [] => none
      | c :: behind =>
          if c = ']' then (schema.built state).map fun value => (value, behind)
          else
            match fields with
            | [] => none
            | field :: fields =>
                if c = ',' then
                  match skipSpace behind with
                  | [] => none
                  | d :: others =>
                      if d = ']' then none
                      else
                        (take? (fieldValue afterBracket field state) (d :: others)).bind fun taken =>
                          take? (schema.moreFields fields taken.1) taken.2
                else none := by
  cases fields with
  | nil =>
      have ended : take? (schema.moreFields [] state) text =
          (take? listEnd text).bind fun taken =>
            (schema.built state).map fun value => (value, taken.2) := by
        unfold take? moreFields
        cases listEnd text with
        | error fault => rfl
        | ok taken =>
            rw [Option.bind_some, ← shortList_toOption state taken.rest]
            dsimp only
            cases schema.shortList state taken.rest <;> rfl
      rw [ended, take?_listEnd]
      cases skipSpace text with
      | nil => rfl
      | cons c behind =>
          dsimp only
          split_ifs <;> rfl
  | cons field fields =>
      rw [Reader.take?, moreFields]
      dsimp only
      generalize skipSpace_length_le text = le
      revert le
      cases skipSpace text with
      | nil => intro le; rfl
      | cons c behind =>
          intro le
          dsimp only
          by_cases isBracket : c = ']'
          · rw [if_pos isBracket, if_pos isBracket, ← shortList_toOption state behind]
            cases schema.shortList state behind <;> rfl
          · rw [if_neg isBracket, if_neg isBracket]
            by_cases isComma : c = ','
            · rw [if_pos isComma, if_pos isComma]
              generalize skipSpace_length_le behind = leOthers
              revert leOthers
              cases skipSpace behind with
              | nil => intro leOthers; rfl
              | cons d others =>
                  intro leOthers
                  dsimp only
                  by_cases closes : d = ']'
                  · rw [if_pos closes, if_pos closes]
                  · rw [if_neg closes, if_neg closes, ← Reader.take?_bind, Reader.take?]
                    cases Reader.bind _ _ (d :: others) <;> rfl
            · rw [if_neg isComma, if_neg isComma]

private theorem exists_of_moreFields {fields : List (Field σ)}
    (readMore : ∀ field ∈ fields, Reads field.reader field.reader.on) {state : σ}
    {text rest : List Char} {value : α}
    (taken : take? (schema.moreFields fields state) text = some (value, rest)) :
    ∃ items : List Tree, after? (moreTokens ']' (items.map Tree.tokens)) text = some rest ∧
      (putItems fields state items).bind schema.built = some value := by
  induction fields generalizing state text with
  | nil =>
      rw [take?_moreFields] at taken
      cases split : skipSpace text with
      | nil => simp [split] at taken
      | cons c behind =>
          rw [split] at taken
          dsimp only at taken
          split_ifs at taken with isBracket
          obtain ⟨_, isBuilt, same⟩ := Option.map_eq_some_iff.mp taken
          cases same
          exact ⟨[], after?_single.mpr (by rw [split, isBracket]; rfl), isBuilt⟩
  | cons field fields inductionHypothesis =>
      rw [List.forall_mem_cons] at readMore
      rw [take?_moreFields] at taken
      cases split : skipSpace text with
      | nil => simp [split] at taken
      | cons c behind =>
          rw [split] at taken
          dsimp only at taken
          split_ifs at taken with isBracket isComma
          · obtain ⟨_, isBuilt, same⟩ := Option.map_eq_some_iff.mp taken
            cases same
            exact ⟨[], after?_single.mpr (by rw [split, isBracket]; rfl), isBuilt⟩
          · cases splitBehind : skipSpace behind with
            | nil => simp [splitBehind] at taken
            | cons d others =>
                rw [splitBehind] at taken
                dsimp only at taken
                split_ifs at taken
                obtain ⟨⟨next, middle⟩, isFirst, later⟩ := Option.bind_eq_some_iff.mp taken
                obtain ⟨item, itemBegins, toNext⟩ :=
                  (fieldValue_reads afterBracket readMore.1 state).sound isFirst
                obtain ⟨items, moreBegins, toEnd⟩ := inductionHypothesis readMore.2 later
                rw [← splitBehind, after?_skipSpace item.tokens_ne_nil] at itemBegins
                refine ⟨item :: items, after?_cons_eq_some_iff.mpr ⟨behind, ?_, ?_⟩, ?_⟩
                · rw [split, isComma]
                  rfl
                · rw [after?_append, itemBegins]
                  exact moreBegins
                · rw [putItems, toNext]
                  exact toEnd

theorem take?_moreFields_of_after? {fields : List (Field σ)}
    (readMore : ∀ field ∈ fields, Reads field.reader field.reader.on) {state : σ}
    {items : List Tree} {text rest : List Char} {value : α}
    (begins : after? (moreTokens ']' (items.map Tree.tokens)) text = some rest)
    (means : (putItems fields state items).bind schema.built = some value) :
    take? (schema.moreFields fields state) text = some (value, rest) := by
  induction items generalizing fields state text with
  | nil =>
      have split := after?_single.mp begins
      have isBuilt : schema.built state = some value := by
        cases fields <;> exact means
      rw [take?_moreFields, split]
      simp [isBuilt]
  | cons item items inductionHypothesis =>
      obtain ⟨behind, split, later⟩ := after?_cons_eq_some_iff.mp begins
      rw [after?_append] at later
      obtain ⟨middle, itemBegins, moreBegins⟩ := Option.bind_eq_some_iff.mp later
      cases fields with
      | nil => cases means
      | cons field fields =>
          rw [List.forall_mem_cons] at readMore
          rw [putItems, Option.bind_assoc] at means
          obtain ⟨next, toNext, toEnd⟩ := Option.bind_eq_some_iff.mp means
          obtain ⟨d, others, splitBehind, isKind⟩ := Tree.exists_of_after? itemBegins
          have notBracket : d ≠ ']' := by
            rintro rfl
            cases isKind
          rw [← after?_skipSpace item.tokens_ne_nil, splitBehind] at itemBegins
          have isFirst := (fieldValue_reads afterBracket readMore.1 state).complete itemBegins
            (item.endsAt_of_breaks (breaks_of_moreTokens (.inl rfl) moreBegins)) toNext
          rw [take?_moreFields, split, List.singleton_append]
          dsimp only
          rw [if_neg (by decide), if_pos rfl, splitBehind]
          dsimp only
          rw [if_neg notBracket, isFirst]
          exact inductionHypothesis readMore.2 moreBegins toEnd

theorem take?_ofList (text : List Char) :
    take? schema.ofList text =
      match skipSpace text with
      | [] => none
      | c :: behind =>
          if c = ']' then (schema.built schema.empty).map fun value => (value, behind)
          else
            match schema.fields with
            | [] => none
            | field :: fields =>
                (take? (fieldValue afterBracket field schema.empty) (c :: behind)).bind fun taken =>
                  take? (schema.moreFields fields taken.1) taken.2 := by
  rw [ofList, Reader.take?_afterSpace, Reader.take?]
  cases skipSpace text with
  | nil => rfl
  | cons c behind =>
      dsimp only
      by_cases isBracket : c = ']'
      · rw [if_pos isBracket, if_pos isBracket, ← shortList_toOption schema.empty behind]
        cases schema.shortList schema.empty behind <;> rfl
      · rw [if_neg isBracket, if_neg isBracket]
        cases schema.fields with
        | nil => rfl
        | cons field fields =>
            dsimp only
            rw [← Reader.take?_bind, Reader.take?]

/-! ## Either form -/

section Reads

variable (readFields : ∀ field ∈ schema.fields, Reads field.reader field.reader.on)

include readFields

/-- A structure in the form of a list goes by the trees of its items. -/
theorem take?_ofList_iff {text rest : List Char} {value : α} :
    take? schema.ofList text = some (value, rest) ↔
      ∃ items : List Tree, after? (entryTokens ']' (items.map Tree.tokens)) text = some rest ∧
        schema.ofTree (.list items) = some value := by
  have isEmpty : schema.ofTree (.list []) = schema.built schema.empty := by
    rw [ofTree, stateOf]
    cases schema.fields <;> rfl
  rw [take?_ofList]
  constructor
  · intro taken
    cases split : skipSpace text with
    | nil => simp [split] at taken
    | cons c behind =>
        rw [split] at taken
        dsimp only at taken
        split_ifs at taken with isBracket
        · obtain ⟨_, isBuilt, same⟩ := Option.map_eq_some_iff.mp taken
          cases same
          exact ⟨[], after?_single.mpr (by rw [split, isBracket]; rfl), isEmpty.trans isBuilt⟩
        · cases areFields : schema.fields with
          | nil => simp [areFields] at taken
          | cons field fields =>
              rw [areFields, List.forall_mem_cons] at readFields
              rw [areFields] at taken
              obtain ⟨⟨next, middle⟩, isFirst, later⟩ := Option.bind_eq_some_iff.mp taken
              obtain ⟨item, itemBegins, toNext⟩ :=
                (fieldValue_reads afterBracket readFields.1 schema.empty).sound isFirst
              obtain ⟨items, moreBegins, toEnd⟩ := exists_of_moreFields readFields.2 later
              rw [← split, after?_skipSpace item.tokens_ne_nil] at itemBegins
              refine ⟨item :: items, ?_, ?_⟩
              · rw [List.map_cons, entryTokens, after?_append, itemBegins]
                exact moreBegins
              · rw [ofTree, stateOf, areFields, putItems, toNext]
                exact toEnd
  · rintro ⟨items, begins, means⟩
    cases items with
    | nil =>
        rw [after?_single.mp begins]
        rw [isEmpty] at means
        simp [means]
    | cons item items =>
        rw [List.map_cons, entryTokens, after?_append] at begins
        obtain ⟨middle, itemBegins, moreBegins⟩ := Option.bind_eq_some_iff.mp begins
        rw [ofTree, stateOf] at means
        cases areFields : schema.fields with
        | nil =>
            rw [areFields] at means
            cases means
        | cons field fields =>
            rw [areFields, List.forall_mem_cons] at readFields
            rw [areFields, putItems, Option.bind_assoc] at means
            obtain ⟨next, toNext, toEnd⟩ := Option.bind_eq_some_iff.mp means
            obtain ⟨c, behind, split, isKind⟩ := Tree.exists_of_after? itemBegins
            have notBracket : c ≠ ']' := by
              rintro rfl
              cases isKind
            rw [← after?_skipSpace item.tokens_ne_nil, split] at itemBegins
            have isFirst := (fieldValue_reads afterBracket readFields.1 schema.empty).complete
              itemBegins (item.endsAt_of_breaks (breaks_of_moreTokens (.inl rfl) moreBegins)) toNext
            rw [split]
            dsimp only
            rw [if_neg notBracket, isFirst]
            exact take?_moreFields_of_after? readFields.2 moreBegins toEnd

omit readFields in
theorem take?_reader {text rest : List Char} {value : α} :
    take? schema.reader text = some (value, rest) ↔
      (∃ behind, skipSpace text = '[' :: behind ∧ take? schema.ofList behind = some (value, rest)) ∨
        ∃ behind, skipSpace text = '\x7b' :: behind ∧
          take? schema.ofObject behind = some (value, rest) := by
  unfold reader
  refine take?_openedEither (by decide) (fun behind => ?_) (fun behind => ?_)
    fun text notBracket notBrace => ?_
  · rw [Reader.take?, Reader.take?]
    dsimp only
    rw [if_pos rfl]
    cases schema.ofList behind <;> rfl
  · rw [Reader.take?, Reader.take?]
    dsimp only
    rw [if_neg (by decide), if_pos rfl]
    cases schema.ofObject behind <;> rfl
  · cases text with
    | nil => rfl
    | cons c behind =>
        apply Reader.take?_eq_none
        dsimp only
        have isNeither : c ≠ '[' ∧ c ≠ '\x7b' :=
          ⟨fun same => notBracket behind (same ▸ rfl), fun same => notBrace behind (same ▸ rfl)⟩
        rw [if_neg isNeither.1, if_neg isNeither.2]
        exact ⟨_, rfl⟩

/-- **A structure is read from the trees that it is, and from nothing else.** -/
theorem reader_reads : Reads schema.reader schema.ofTree where
  sound := by
    intro text value rest taken
    rcases take?_reader.mp taken with ⟨behind, split, isList⟩ | ⟨behind, split, isObject⟩
    · obtain ⟨items, begins, means⟩ := (take?_ofList_iff readFields).mp isList
      refine ⟨.list items, ?_, means⟩
      rw [Tree.tokens, Tree.itemTokens_eq_map]
      exact after?_cons_eq_some_iff.mpr ⟨behind, split, begins⟩
    · obtain ⟨members, begins, means⟩ := (take?_ofObject readFields).mp isObject
      refine ⟨.object members, ?_, means⟩
      rw [Tree.tokens, Tree.memberTokens_eq_map]
      exact after?_cons_eq_some_iff.mpr ⟨behind, split, begins⟩
  complete := by
    intro tree text value rest begins _ means
    cases tree with
    | list items =>
        rw [Tree.tokens, Tree.itemTokens_eq_map] at begins
        obtain ⟨behind, split, later⟩ := after?_cons_eq_some_iff.mp begins
        exact take?_reader.mpr
          (.inl ⟨behind, split, (take?_ofList_iff readFields).mpr ⟨items, later, means⟩⟩)
    | object members =>
        rw [Tree.tokens, Tree.memberTokens_eq_map] at begins
        obtain ⟨behind, split, later⟩ := after?_cons_eq_some_iff.mp begins
        exact take?_reader.mpr
          (.inr ⟨behind, split, (take?_ofObject readFields).mpr ⟨members, later, means⟩⟩)
    | null | bool | number | text => cases means

end Reads

end Schema

end WebCompat.Json
