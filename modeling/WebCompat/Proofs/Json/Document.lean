import Mathlib.Data.List.Forall2
import WebCompat.Json.Document
import WebCompat.Proofs.Json.Literal
import WebCompat.Proofs.Json.Unambiguous

/-!
Readers of values and the trees that they read. A reader means something to each tree, or nothing
where it finds a fault; it takes a value off a text exactly if the text begins with a tree that
means this value to it.

Owns: what it means that a reader goes by the trees of values; that the readers of lists and objects
do, if those of their parts do; that values are kept and skipped by their trees; and that a text
has one tree.
-/

namespace WebCompat.Json

open WebCompat.Text (Taken)
open Reader (take?)

variable {α κ ν : Type}

/-! ## Readers of values -/

/-- What it means that a reader of values goes by their trees. -/
structure Reads (reader : Reader α) (meaning : Tree → Option α) : Prop where
  sound : ∀ {text value rest}, take? reader text = some (value, rest) →
    ∃ tree : Tree, after? tree.tokens text = some rest ∧ meaning tree = some value
  complete : ∀ {tree : Tree} {text value rest}, after? tree.tokens text = some rest →
    tree.EndsAt rest → meaning tree = some value → take? reader text = some (value, rest)

section Combinators

variable {reader : Reader α} {meaning : Tree → Option α} (reads : Reads reader meaning)

include reads

theorem map_reads (f : α → κ) : Reads (Reader.map f reader) fun tree => (meaning tree).map f where
  sound := by
    intro text value rest taken
    rw [Reader.take?_map] at taken
    obtain ⟨⟨found, _⟩, isFound, same⟩ := Option.map_eq_some_iff.mp taken
    cases same
    obtain ⟨tree, begins, means⟩ := reads.sound isFound
    exact ⟨tree, begins, by rw [means]; rfl⟩
  complete := by
    intro tree text value rest begins ends means
    obtain ⟨found, isFound, rfl⟩ := Option.map_eq_some_iff.mp means
    rw [Reader.take?_map, reads.complete begins ends isFound]
    rfl

theorem judge_reads (judgement : α → Except Cause κ) :
    Reads (Reader.judge reader judgement) fun tree =>
      (meaning tree).bind fun value => (judgement value).toOption where
  sound := by
    intro text value rest taken
    rw [Reader.take?_judge] at taken
    obtain ⟨⟨found, _⟩, isFound, judged⟩ := Option.bind_eq_some_iff.mp taken
    obtain ⟨_, isJudged, same⟩ := Option.map_eq_some_iff.mp judged
    cases same
    obtain ⟨tree, begins, means⟩ := reads.sound isFound
    exact ⟨tree, begins, by rw [means]; exact isJudged⟩
  complete := by
    intro tree text value rest begins ends means
    obtain ⟨found, isFound, isJudged⟩ := Option.bind_eq_some_iff.mp means
    rw [Reader.take?_judge, reads.complete begins ends isFound, Option.bind_some, isJudged]
    rfl

end Combinators

/-- What it means that a reader of quoted texts goes by their pieces. -/
structure QuotedReads (quoted : Reader κ) (meaning : List Piece → Option κ) : Prop where
  sound : ∀ {text value rest}, take? quoted text = some (value, rest) →
    ∃ pieces, text = inner pieces ++ '"' :: rest ∧ meaning pieces = some value
  complete : ∀ {pieces value}, meaning pieces = some value → ∀ rest,
    take? quoted (inner pieces ++ '"' :: rest) = some (value, rest)

/-- The text between quotes goes by its pieces. -/
theorem quotedText_reads : QuotedReads quotedText string? where
  sound := by
    intro text value rest taken
    rw [quotedText, Reader.take?_map] at taken
    obtain ⟨⟨said, _⟩, isSaid, same⟩ := Option.map_eq_some_iff.mp taken
    cases same
    obtain ⟨pieces, split, denotes⟩ := exists_of_quotedChars isSaid
    exact ⟨pieces, split, by rw [string?, denotes]; rfl⟩
  complete := by
    intro pieces value denotes rest
    obtain ⟨said, isSaid, rfl⟩ := Option.map_eq_some_iff.mp denotes
    rw [quotedText, Reader.take?_map, take?_quotedChars_inner isSaid]
    rfl

theorem quotedForm_reads : QuotedReads quotedForm fun _ => some () where
  sound := by
    intro text value rest taken
    obtain ⟨pieces, split⟩ := exists_of_quotedForm taken
    exact ⟨pieces, split, rfl⟩
  complete := by
    intro pieces value _ rest
    exact take?_quotedForm_inner pieces rest

/-! ## Items and members -/

theorem take?_key (quoted : Reader κ) (c : Char) (rest : List Char) :
    take? (key quoted) (c :: rest) = if c = '"' then take? quoted rest else none := by
  unfold take? key
  by_cases isQuote : c = '"'
  · simp only [isQuote, if_true]
    cases quoted rest <;> rfl
  · simp [isQuote]

private theorem mapM_cons_eq_bind {f : α → Option κ} (a : α) (as : List α) :
    (a :: as).mapM f = (f a).bind fun value => (as.mapM f).map (value :: ·) := by
  rw [List.mapM_cons]
  cases f a <;> cases as.mapM f <;> rfl

private theorem mapM_eq_some_map {f : α → Option κ} {g : α → κ} {as : List α}
    (each : ∀ a ∈ as, f a = some (g a)) : as.mapM f = some (as.map g) := by
  induction as with
  | nil => rfl
  | cons a as inductionHypothesis =>
      rw [List.forall_mem_cons] at each
      rw [mapM_cons_eq_bind, each.1, inductionHypothesis each.2]
      rfl

theorem mapM_eq_some_iff {f : α → Option κ} {as : List α} {values : List κ} :
    as.mapM f = some values ↔ List.Forall₂ (fun a value => f a = some value) as values := by
  induction as generalizing values with
  | nil => simp [eq_comm]
  | cons a as inductionHypothesis =>
      rw [mapM_cons_eq_bind, Option.bind_eq_some_iff, List.forall₂_cons_left_iff]
      simp only [Option.map_eq_some_iff, inductionHypothesis]
      constructor
      · rintro ⟨value, isValue, others, areOthers, rfl⟩
        exact ⟨value, others, isValue, areOthers, rfl⟩
      · rintro ⟨value, others, isValue, areOthers, rfl⟩
        exact ⟨value, isValue, others, areOthers, rfl⟩

theorem exists_of_mem_of_mapM {f : α → Option κ} {as : List α} {values : List κ}
    (all : as.mapM f = some values) : ∀ a ∈ as, ∃ value, f a = some value := by
  rw [mapM_eq_some_iff] at all
  induction all with
  | nil => nofun
  | cons first _ inductionHypothesis =>
      rw [List.forall_mem_cons]
      exact ⟨⟨_, first⟩, inductionHypothesis⟩

/-- Entries that are put in front of one another. -/
theorem foldlM_cons_eq_mapM {f : α → Option κ} (as : List α) (done : List κ) :
    (as.foldlM (fun done a => (f a).map (· :: done)) done) =
      (as.mapM f).map fun values => values.reverse ++ done := by
  induction as generalizing done with
  | nil => rfl
  | cons a as inductionHypothesis =>
      rw [List.foldlM_cons, mapM_cons_eq_bind]
      cases f a with
      | none => rfl
      | some value =>
          simp only [Option.map_some, Option.bind_eq_bind, Option.bind_some, inductionHypothesis]
          cases as.mapM f <;> simp

/-- Entries that are collected are those of which the text has the tokens. -/
theorem take?_collected {β : Type} {enclosure : Enclosure} (closes : IsClosing enclosure.closing)
    {entry : List α → Reader (List α)} {tokensOf : β → List (List Char)} {f : β → Option α}
    (reads : EntryReads enclosure.closing entry tokensOf fun done a => (f a).map (· :: done))
    {text rest : List Char} {values : List α} :
    take? (Reader.map List.reverse (entries enclosure entry [])) text = some (values, rest) ↔
      ∃ as : List β, after? (entryTokens enclosure.closing (as.map tokensOf)) text = some rest ∧
        as.mapM f = some values := by
  rw [Reader.take?_map, Option.map_eq_some_iff]
  constructor
  · rintro ⟨⟨done, _⟩, isDone, same⟩
    cases same
    obtain ⟨as, begins, leads⟩ := exists_of_entries reads isDone
    rw [foldlM_cons_eq_mapM] at leads
    obtain ⟨values, means, rfl⟩ := Option.map_eq_some_iff.mp leads
    exact ⟨as, begins, by simpa using means⟩
  · rintro ⟨as, begins, means⟩
    refine ⟨(values.reverse, rest), ?_, by rw [List.reverse_reverse]⟩
    refine take?_entries_of_after? reads closes begins ?_
    rw [foldlM_cons_eq_mapM, means, Option.map_some, List.append_nil]

section Parts

variable {enclosure : Enclosure} (closes : IsClosing enclosure.closing)
  {reader : Reader α} {meaning : Tree → Option α} (reads : Reads reader meaning)

include closes reads

theorem item_reads :
    EntryReads enclosure.closing (fun done => Reader.map (fun next => next :: done) reader)
      Tree.tokens (fun done tree => (meaning tree).map (· :: done)) where
  begins tree := tree.exists_tokens closes
  sound := by
    intro done text next rest taken
    rw [Reader.take?_map] at taken
    obtain ⟨⟨value, _⟩, isValue, same⟩ := Option.map_eq_some_iff.mp taken
    cases same
    obtain ⟨tree, begins, means⟩ := reads.sound isValue
    exact ⟨tree, begins, by rw [means]; rfl⟩
  complete := by
    intro tree done text next rest _ begins breaks leads
    obtain ⟨value, means, rfl⟩ := Option.map_eq_some_iff.mp leads
    rw [Reader.take?_map, reads.complete begins (tree.endsAt_of_breaks breaks) means]
    rfl

/-- Items are taken if the text goes on with the tokens of trees that mean them. -/
theorem take?_items {text rest : List Char} {values : List α} :
    take? (items enclosure reader) text = some (values, rest) ↔
      ∃ trees : List Tree,
        after? (entryTokens enclosure.closing (trees.map Tree.tokens)) text = some rest ∧
          trees.mapM meaning = some values :=
  take?_collected closes (item_reads closes reads)

variable {quoted : Reader κ} {quotedOf : List Piece → Option κ}
  (quotedReads : QuotedReads quoted quotedOf)

omit closes reads in
/-- What a member means, its name and its value. -/
def memberOf (quotedOf : List Piece → Option κ) (meaning : Tree → Option α)
    (member : List Piece × Tree) : Option (κ × α) :=
  (quotedOf member.1).bind fun name => (meaning member.2).map fun value => (name, value)

include quotedReads

omit closes reads in
theorem take?_key_eq_some_iff {text rest : List Char} {name : κ} :
    take? (key quoted) text = some (name, rest) ↔
      ∃ pieces, text = '"' :: (inner pieces ++ '"' :: rest) ∧ quotedOf pieces = some name := by
  constructor
  · intro taken
    cases text with
    | nil => cases taken
    | cons c behind =>
        rw [take?_key] at taken
        by_cases isQuote : c = '"'
        · rw [if_pos isQuote] at taken
          obtain ⟨pieces, split, means⟩ := quotedReads.sound taken
          exact ⟨pieces, by rw [isQuote, split], means⟩
        · rw [if_neg isQuote] at taken
          cases taken
  · rintro ⟨pieces, rfl, means⟩
    rw [take?_key, if_pos rfl]
    exact quotedReads.complete means rest

omit reads in
/-- A reader of members goes by their names and by the trees behind the colons, if what it reads
behind a colon does. -/
theorem keyed_reads {σ : Type} {entry : σ → Reader σ} {follow : σ → κ → Reader σ}
    {means : σ → κ → Tree → Option σ}
    (follows : ∀ state name, Reads (follow state name) (means state name))
    (isEntry : ∀ state text, take? (entry state) text =
      (take? (key quoted) text).bind fun named =>
        (take? colon named.2).bind fun marked => take? (follow state named.1) marked.2) :
    EntryReads enclosure.closing entry Tree.ofMember fun state member =>
      (quotedOf member.1).bind fun name => means state name member.2 where
  begins member := by
    refine ⟨'"', _, _, rfl, ?_⟩
    rcases closes with isClosing | isClosing <;> rw [isClosing] <;> decide
  sound := by
    intro state text next rest taken
    simp only [isEntry, Option.bind_eq_some_iff] at taken
    obtain ⟨⟨name, _⟩, isName, ⟨⟨⟩, _⟩, isColon, isValue⟩ := taken
    obtain ⟨pieces, rfl, named⟩ := (take?_key_eq_some_iff quotedReads).mp isName
    obtain ⟨tree, begins, leads⟩ := (follows state name).sound isValue
    refine ⟨(pieces, tree), ?_, by rw [named]; exact leads⟩
    refine after?_quotation.mpr ⟨_, skipSpace_of_head rfl, ?_⟩
    exact after?_cons_eq_some_iff.mpr ⟨_, take?_mark_eq_some_iff.mp isColon, begins⟩
  complete := by
    rintro ⟨pieces, tree⟩ state text next rest isSkipped begins breaks leads
    obtain ⟨name, isName, means⟩ := Option.bind_eq_some_iff.mp leads
    obtain ⟨behind, split, later⟩ := after?_quotation.mp begins
    obtain ⟨afterColon, isColon, treeBegins⟩ := after?_cons_eq_some_iff.mp later
    rw [isSkipped] at split
    have named := (take?_key_eq_some_iff quotedReads).mpr ⟨pieces, split, isName⟩
    have marked : take? colon behind = some ((), afterColon) := take?_mark_eq_some_iff.mpr isColon
    rw [isEntry, named, Option.bind_some, marked]
    exact (follows state name).complete treeBegins (tree.endsAt_of_breaks breaks) means

theorem member_reads :
    EntryReads enclosure.closing
      (fun done =>
        Reader.bind (key quoted) fun name =>
          Reader.bind colon fun _ => Reader.map (fun next => (name, next) :: done) reader)
      Tree.ofMember (fun done member => (memberOf quotedOf meaning member).map (· :: done)) := by
  have isStep :
      (fun (done : List (κ × α)) member => (memberOf quotedOf meaning member).map (· :: done)) =
      fun done member => (quotedOf member.1).bind fun name =>
        (meaning member.2).map fun next => (name, next) :: done := by
    funext done member
    rw [memberOf]
    cases quotedOf member.1 <;> cases meaning member.2 <;> rfl
  have follows : ∀ (done : List (κ × α)) (name : κ),
      Reads (Reader.map (fun next => (name, next) :: done) reader) fun tree =>
        (meaning tree).map fun next => (name, next) :: done :=
    fun done name => map_reads reads fun next => (name, next) :: done
  rw [isStep]
  exact keyed_reads closes quotedReads follows fun done text => by simp only [Reader.take?_bind]

/-- Members are taken if the text goes on with the tokens of members that mean them. -/
theorem take?_members {text rest : List Char} {values : List (κ × α)} :
    take? (members enclosure quoted reader) text = some (values, rest) ↔
      ∃ trees : List (List Piece × Tree),
        after? (entryTokens enclosure.closing (trees.map Tree.ofMember)) text = some rest ∧
          trees.mapM (memberOf quotedOf meaning) = some values :=
  take?_collected closes (member_reads closes reads quotedReads)

end Parts

/-! ## Values in a manner -/

/-- What it means that the leaves of values are read in a manner by their pieces and figures. -/
structure LeafReads (manner : Manner κ ν) (quotedOf : List Piece → Option κ)
    (numberOf : Bool → Numeral → Option ν) : Prop where
  listCloses : manner.listEnclosure.closing = ']'
  objectCloses : manner.objectEnclosure.closing = '\x7d'
  quoted : QuotedReads manner.quoted quotedOf
  numberSound : ∀ {isNegative text value rest},
    take? (manner.number isNegative) text = some (value, rest) →
      ∃ figure : Figure, text = figure.chars ++ rest ∧
        numberOf isNegative figure.numeral = some value
  numberComplete : ∀ {isNegative} {figure : Figure} {value rest}, Breaks rest →
    numberOf isNegative figure.numeral = some value →
      take? (manner.number isNegative) (figure.chars ++ rest) = some (value, rest)

section Making

variable (manner : Manner κ ν) (quotedOf : List Piece → Option κ)
  (numberOf : Bool → Numeral → Option ν)

mutual

/-- What is made of a tree in a manner, with lists and objects to the given number of levels. -/
def Tree.made : Nat → Tree → Option ν
  | _, .null => some manner.null
  | _, .bool value => some (manner.bool value)
  | _, .number isNegative figure => numberOf isNegative figure.numeral
  | _, .text pieces => (quotedOf pieces).map manner.text
  | 0, .list _ => none
  | levels + 1, .list items => (madeItems levels items).map manner.list
  | 0, .object _ => none
  | levels + 1, .object members => (madeMembers levels members).map manner.object

def Tree.madeItems : Nat → List Tree → Option (List ν)
  | _, [] => some []
  | levels, item :: items =>
      (item.made levels).bind fun value => (madeItems levels items).map (value :: ·)

def Tree.madeMembers : Nat → List (List Piece × Tree) → Option (List (κ × ν))
  | _, [] => some []
  | levels, (key, item) :: members =>
      (quotedOf key).bind fun name =>
        (item.made levels).bind fun value =>
          (madeMembers levels members).map ((name, value) :: ·)

end

theorem Tree.madeItems_eq_mapM (levels : Nat) (items : List Tree) :
    madeItems manner quotedOf numberOf levels items =
      items.mapM (made manner quotedOf numberOf levels) := by
  induction items with
  | nil => rfl
  | cons item items inductionHypothesis =>
      rw [madeItems, mapM_cons_eq_bind, inductionHypothesis]

theorem Tree.madeMembers_eq_mapM (levels : Nat) (members : List (List Piece × Tree)) :
    madeMembers manner quotedOf numberOf levels members =
      members.mapM (memberOf quotedOf (made manner quotedOf numberOf levels)) := by
  induction members with
  | nil => rfl
  | cons member members inductionHypothesis =>
      rw [madeMembers, mapM_cons_eq_bind, inductionHypothesis, memberOf]
      cases quotedOf member.1 with
      | none => rfl
      | some name => cases made manner quotedOf numberOf levels member.2 <;> rfl

end Making

section Values

variable (manner : Manner κ ν)

theorem take?_value (levels : Nat) (text : List Char) :
    take? (value manner levels) text =
      match skipSpace text with
      | [] => none
      | c :: rest =>
          if c = 'n' then
            (take? (word 'n' ['u', 'l', 'l']) (c :: rest)).map fun taken => (manner.null, taken.2)
          else if c = 't' then
            (take? (word 't' ['r', 'u', 'e']) (c :: rest)).map fun taken =>
              (manner.bool true, taken.2)
          else if c = 'f' then
            (take? (word 'f' ['a', 'l', 's', 'e']) (c :: rest)).map fun taken =>
              (manner.bool false, taken.2)
          else if c = '-' then take? (manner.number true) rest
          else if c.isDigit then take? (manner.number false) (c :: rest)
          else if c = '"' then
            (take? manner.quoted rest).map fun taken => (manner.text taken.1, taken.2)
          else if c = '[' then
            match levels with
            | 0 => none
            | inner + 1 =>
                (take? (items manner.listEnclosure (value manner inner)) rest).map fun taken =>
                  (manner.list taken.1, taken.2)
          else if c = '\x7b' then
            match levels with
            | 0 => none
            | inner + 1 =>
                (take? (members manner.objectEnclosure manner.quoted (value manner inner)) rest).map
                  fun taken => (manner.object taken.1, taken.2)
          else none := by
  rw [value.eq_def, Reader.take?_afterSpace]
  unfold take?
  cases skipSpace text with
  | nil => rfl
  | cons c rest =>
      dsimp only
      split_ifs
      · exact Reader.take?_map _ _ _
      · exact Reader.take?_map _ _ _
      · exact Reader.take?_map _ _ _
      · cases manner.number true rest <;> rfl
      · rfl
      · cases manner.quoted rest <;> rfl
      · cases levels with
        | zero => rfl
        | succ inner =>
            dsimp only
            cases items manner.listEnclosure (value manner inner) rest <;> rfl
      · cases levels with
        | zero => rfl
        | succ inner =>
            dsimp only
            cases members manner.objectEnclosure manner.quoted (value manner inner) rest <;> rfl
      · rfl

variable {manner : Manner κ ν} {quotedOf : List Piece → Option κ}
  {numberOf : Bool → Numeral → Option ν} (leaves : LeafReads manner quotedOf numberOf)

include leaves

section Step

variable {levels : Nat}
  (inside : ∀ inner, levels = inner + 1 →
    Reads (value manner inner) (Tree.made manner quotedOf numberOf inner))
  {text rest : List Char} {found : ν}

include inside

private theorem exists_of_value (taken : take? (value manner levels) text = some (found, rest)) :
    ∃ tree : Tree, after? tree.tokens text = some rest ∧
      tree.made manner quotedOf numberOf levels = some found := by
  have listCloses : IsClosing manner.listEnclosure.closing := .inl leaves.listCloses
  have objectCloses : IsClosing manner.objectEnclosure.closing := .inr leaves.objectCloses
  rw [take?_value] at taken
  cases split : skipSpace text with
  | nil => simp [split] at taken
  | cons c behind =>
      rw [split] at taken
      dsimp only at taken
      have ofWord : ∀ {first : Char} {more : List Char} {made : ν},
          (take? (word first more) (c :: behind)).map (fun taken => (made, taken.2)) =
            some (found, rest) →
          after? [first :: more] text = some rest ∧ made = found := by
        intro first more made isWord
        obtain ⟨⟨⟨⟩, _⟩, isTaken, same⟩ := Option.map_eq_some_iff.mp isWord
        cases same
        exact ⟨after?_single.mpr (split.trans (take?_word.mp isTaken)), rfl⟩
      split_ifs at taken with isN isT isF isMinus isDigit isQuote isBracket isBrace
      · obtain ⟨begins, same⟩ := ofWord taken
        exact ⟨.null, begins, congrArg some same⟩
      · obtain ⟨begins, same⟩ := ofWord taken
        exact ⟨.bool true, begins, congrArg some same⟩
      · obtain ⟨begins, same⟩ := ofWord taken
        exact ⟨.bool false, begins, congrArg some same⟩
      · obtain ⟨figure, splitFigure, means⟩ := leaves.numberSound taken
        refine ⟨.number true figure, after?_single.mpr ?_, by rw [Tree.made, means]⟩
        rw [split, isMinus, splitFigure, if_pos rfl, List.cons_append]
      · obtain ⟨figure, splitFigure, means⟩ := leaves.numberSound taken
        refine ⟨.number false figure, after?_single.mpr ?_, by rw [Tree.made, means]⟩
        rw [split, splitFigure]
        rfl
      · obtain ⟨⟨said, _⟩, isSaid, same⟩ := Option.map_eq_some_iff.mp taken
        cases same
        obtain ⟨pieces, splitPieces, denotes⟩ := leaves.quoted.sound isSaid
        refine ⟨.text pieces, after?_quotation.mpr ⟨_, ?_, rfl⟩, by rw [Tree.made, denotes]; rfl⟩
        rw [split, isQuote, splitPieces]
      · cases levels with
        | zero => cases taken
        | succ inner =>
            obtain ⟨⟨values, _⟩, areValues, same⟩ := Option.map_eq_some_iff.mp taken
            cases same
            obtain ⟨trees, begins, mean⟩ := (take?_items listCloses (inside inner rfl)).mp areValues
            refine ⟨.list trees, ?_, by rw [Tree.made, Tree.madeItems_eq_mapM, mean]; rfl⟩
            rw [Tree.tokens, Tree.itemTokens_eq_map]
            exact after?_cons_eq_some_iff.mpr
              ⟨behind, by rw [split, isBracket]; rfl, leaves.listCloses ▸ begins⟩
      · cases levels with
        | zero => cases taken
        | succ inner =>
            obtain ⟨⟨values, _⟩, areValues, same⟩ := Option.map_eq_some_iff.mp taken
            cases same
            obtain ⟨trees, begins, mean⟩ :=
              (take?_members objectCloses (inside inner rfl) leaves.quoted).mp areValues
            refine ⟨.object trees, ?_, by rw [Tree.made, Tree.madeMembers_eq_mapM, mean]; rfl⟩
            rw [Tree.tokens, Tree.memberTokens_eq_map]
            exact after?_cons_eq_some_iff.mpr
              ⟨behind, by rw [split, isBrace]; rfl, leaves.objectCloses ▸ begins⟩

theorem take?_value_of_after? {tree : Tree} (begins : after? tree.tokens text = some rest)
    (ends : tree.EndsAt rest) (means : tree.made manner quotedOf numberOf levels = some found) :
    take? (value manner levels) text = some (found, rest) := by
  have listCloses : IsClosing manner.listEnclosure.closing := .inl leaves.listCloses
  have objectCloses : IsClosing manner.objectEnclosure.closing := .inr leaves.objectCloses
  have ofWord : ∀ {first : Char} {more : List Char} (made : ν),
      after? [first :: more] text = some rest → skipSpace text = first :: (more ++ rest) ∧
        (take? (word first more) (first :: (more ++ rest))).map (fun taken => (made, taken.2)) =
          some (made, rest) := by
    intro first more made isWord
    have taken : take? (word first more) (first :: (more ++ rest)) = some ((), rest) :=
      take?_word.mpr rfl
    exact ⟨after?_single.mp isWord, by rw [taken]; rfl⟩
  rw [take?_value]
  cases tree with
  | null =>
      cases means
      obtain ⟨split, taken⟩ := ofWord manner.null begins
      rw [split]
      simpa using taken
  | bool value =>
      cases means
      cases value with
      | true =>
          obtain ⟨split, taken⟩ := ofWord (manner.bool true) begins
          rw [split]
          simpa using taken
      | false =>
          obtain ⟨split, taken⟩ := ofWord (manner.bool false) begins
          rw [split]
          simpa using taken
  | number isNegative figure =>
      have split := after?_single.mp begins
      have taken := leaves.numberComplete ends means
      cases isNegative with
      | true =>
          rw [split]
          simpa using taken
      | false =>
          obtain ⟨c, more, isChars, isDigit⟩ := figure.exists_cons
          have different : ∀ d : Char, d.isDigit = false → c ≠ d := by
            rintro d notDigit rfl
            rw [isDigit] at notDigit
            cases notDigit
          rw [if_neg Bool.false_ne_true, isChars] at split
          rw [isChars] at taken
          rw [split, List.cons_append]
          dsimp only
          rw [if_neg (different 'n' rfl), if_neg (different 't' rfl), if_neg (different 'f' rfl),
            if_neg (different '-' rfl), if_pos isDigit]
          exact taken
  | text pieces =>
      obtain ⟨said, isSaid, rfl⟩ := Option.map_eq_some_iff.mp means
      obtain ⟨behind, split, left⟩ := after?_quotation.mp begins
      cases left
      rw [split]
      simp [leaves.quoted.complete isSaid]
  | list items =>
      rw [Tree.tokens, Tree.itemTokens_eq_map, ← leaves.listCloses] at begins
      obtain ⟨behind, split, later⟩ := after?_cons_eq_some_iff.mp begins
      rw [split]
      cases levels with
      | zero => cases means
      | succ inner =>
          rw [Tree.made, Tree.madeItems_eq_mapM] at means
          obtain ⟨values, mean, rfl⟩ := Option.map_eq_some_iff.mp means
          have taken := (take?_items listCloses (inside inner rfl)).mpr ⟨items, later, mean⟩
          simp [taken]
  | object members =>
      rw [Tree.tokens, Tree.memberTokens_eq_map, ← leaves.objectCloses] at begins
      obtain ⟨behind, split, later⟩ := after?_cons_eq_some_iff.mp begins
      rw [split]
      cases levels with
      | zero => cases means
      | succ inner =>
          rw [Tree.made, Tree.madeMembers_eq_mapM] at means
          obtain ⟨values, mean, rfl⟩ := Option.map_eq_some_iff.mp means
          have taken :=
            (take?_members objectCloses (inside inner rfl) leaves.quoted).mpr ⟨members, later, mean⟩
          simp [taken]

end Step

/-- **Values go by their trees**, in whatever manner they are read, up to the number of levels. -/
theorem value_reads (levels : Nat) :
    Reads (value manner levels) (Tree.made manner quotedOf numberOf levels) := by
  induction levels with
  | zero =>
      have inside : ∀ inner, 0 = inner + 1 →
          Reads (value manner inner) (Tree.made manner quotedOf numberOf inner) := by
        rintro inner ⟨⟩
      exact ⟨exists_of_value leaves inside, take?_value_of_after? leaves inside⟩
  | succ levels inductionHypothesis =>
      have inside : ∀ inner, levels + 1 = inner + 1 →
          Reads (value manner inner) (Tree.made manner quotedOf numberOf inner) := by
        rintro inner ⟨⟩
        exact inductionHypothesis
      exact ⟨exists_of_value leaves inside, take?_value_of_after? leaves inside⟩

end Values

/-! ## Values that are kept -/

/-- The number that a figure denotes, as a value. -/
def keptNumber? (isNegative : Bool) (n : Numeral) : Option Value :=
  (n.number? isNegative).map .number

private theorem kept_leafReads : LeafReads kept string? keptNumber? where
  listCloses := rfl
  objectCloses := rfl
  quoted := quotedText_reads
  numberSound := by
    intro isNegative text found rest taken
    rw [kept, Reader.take?_map, take?_number] at taken
    simp only [Option.map_eq_some_iff, Option.bind_eq_some_iff] at taken
    obtain ⟨_, ⟨⟨n, _⟩, isNumeral, number, isNumber, rfl⟩, same⟩ := taken
    cases same
    obtain ⟨chars, written, split⟩ := exists_of_numeral isNumeral
    exact ⟨⟨n, chars, written⟩, split, by rw [keptNumber?, isNumber]; rfl⟩
  numberComplete := by
    intro isNegative figure found rest breaks means
    obtain ⟨number, isNumber, rfl⟩ := Option.map_eq_some_iff.mp means
    rw [kept, Reader.take?_map, take?_number, take?_numeral_append figure.written breaks,
      Option.bind_some, isNumber]
    rfl

/-- The value that a tree denotes, with lists and objects to the given number of levels. -/
def Tree.value? : Nat → Tree → Option Value :=
  Tree.made kept string? keptNumber?

theorem value_kept_reads (levels : Nat) : Reads (value kept levels) (Tree.value? levels) :=
  value_reads kept_leafReads levels

/-! ## Values that are skipped -/

private theorem skipped_leafReads : LeafReads skipped (fun _ => some ()) fun _ _ => some () where
  listCloses := rfl
  objectCloses := rfl
  quoted := quotedForm_reads
  numberSound := by
    rintro isNegative text ⟨⟩ rest taken
    rw [skipped, numberForm, Reader.take?_map] at taken
    obtain ⟨⟨n, _⟩, isNumeral, same⟩ := Option.map_eq_some_iff.mp taken
    cases same
    obtain ⟨chars, written, split⟩ := exists_of_numeral isNumeral
    exact ⟨⟨n, chars, written⟩, split, rfl⟩
  numberComplete := by
    rintro isNegative figure ⟨⟩ rest breaks _
    rw [skipped, numberForm, Reader.take?_map, take?_numeral_append figure.written breaks]
    rfl

private theorem length_le_entryTokens {closing : Char} {tokensOf : α → List (List Char)}
    {as : List α} {a : α} (member : a ∈ as) :
    (tokensOf a).length ≤ (entryTokens closing (as.map tokensOf)).length := by
  have inMore : ∀ as : List α, a ∈ as →
      (tokensOf a).length ≤ (moreTokens closing (as.map tokensOf)).length := by
    intro as member
    induction as with
    | nil => cases member
    | cons first as inductionHypothesis =>
        rw [List.map_cons, moreTokens, List.length_cons, List.length_append]
        rcases List.mem_cons.mp member with rfl | later
        · omega
        · have := inductionHypothesis later
          omega
  cases as with
  | nil => cases member
  | cons first as =>
      rw [List.map_cons, entryTokens, List.length_append]
      rcases List.mem_cons.mp member with rfl | later
      · omega
      · have := inMore as later
        omega

/-- A tree opens fewer levels than it has tokens. -/
theorem Tree.made_skipped {levels : Nat} {tree : Tree} (enough : tree.tokens.length ≤ levels) :
    tree.made skipped (fun _ => some ()) (fun _ _ => some ()) levels = some () := by
  induction levels generalizing tree with
  | zero =>
      obtain ⟨_, _, _, isTokens, _⟩ := tree.exists_opening
      rw [isTokens] at enough
      cases enough
  | succ levels inductionHypothesis =>
      cases tree with
      | null | bool | number | text => rfl
      | list items =>
          rw [tokens, itemTokens_eq_map, List.length_cons] at enough
          rw [made, madeItems_eq_mapM, mapM_eq_some_map (g := fun _ => ())]
          · rfl
          · intro item member
            have notLonger : item.tokens.length ≤ (entryTokens ']' (items.map tokens)).length :=
              length_le_entryTokens member
            exact inductionHypothesis (notLonger.trans (Nat.le_of_succ_le_succ enough))
      | object members =>
          rw [tokens, memberTokens_eq_map, List.length_cons] at enough
          rw [made, madeMembers_eq_mapM, mapM_eq_some_map (g := fun _ => ((), ()))]
          · rfl
          · intro member isMember
            have notLonger :
                (ofMember member).length ≤ (entryTokens '\x7d' (members.map ofMember)).length :=
              length_le_entryTokens isMember
            have shorter : member.2.tokens.length ≤ levels := by
              rw [ofMember, List.length_cons, List.length_cons] at notLonger
              omega
            rw [memberOf, Option.bind_some, inductionHypothesis shorter]
            rfl

/-- **Any value is passed over, and nothing else.** -/
theorem skip_reads : Reads skip fun _ => some () where
  sound := by
    rintro text ⟨⟩ rest taken
    obtain ⟨tree, begins, _⟩ := (value_reads skipped_leafReads text.length).sound taken
    exact ⟨tree, begins, rfl⟩
  complete := by
    rintro tree text ⟨⟩ rest begins ends _
    have enough : tree.tokens.length ≤ text.length := by
      have := length_le_of_after? (fun token member => (tree.isToken token member).notEmpty) begins
      omega
    exact (value_reads skipped_leafReads text.length).complete begins ends
      (Tree.made_skipped enough)

end WebCompat.Json
