import WebCompat.Proofs.Text.Lowercase
import WebCompat.Proofs.Text.Pattern
import WebCompat.Proofs.Token.Set
import WebCompat.Scan.Markup

/-!
The tags of a marked-up text. A tag is said three times: as a grammar, by the shape that reads it,
and as a pattern that is matched by trying. The pattern wants a word to end behind the name of a tag,
so that a name is never cut short.

Owns: the grammar of tags, what takes it; and the names of elements that are written one behind the
other.
-/

namespace WebCompat.Scan

open WebCompat.Text WebCompat.Text.Pattern

/-! ## Grammar -/

/-- An ASCII letter and the ASCII letters and digits behind it, where they end a word. -/
def TagName : Grammar String := fun text name rest =>
  text = name.toList ++ rest ∧ IsRun Char.isAlpha Char.isAlphanum name.toList rest ∧
    ∀ c ∈ rest.head?, isWordChar c = false

/-- What is left behind the first `>` of a text. -/
def Closes (text rest : List Char) : Prop :=
  ∃ others, text = others ++ '>' :: rest ∧ '>' ∉ others

/-- `<` or `</`, and a name. -/
def OpensTag : Grammar String := fun text name rest =>
  ∃ slash named, (slash = [] ∨ slash = ['/']) ∧ text = '<' :: (slash ++ named) ∧
    TagName named name rest

/-- A tag: `<` or `</`, a name, and all that follows up to the next `>`. -/
def Tags : Grammar String := fun text name rest =>
  ∃ behind, OpensTag text name behind ∧ Closes behind rest

/-! ## What the shapes take -/

theorem isAlphanum_of_isAlpha {c : Char} (isAlpha : c.isAlpha = true) : c.isAlphanum = true := by
  rw [Char.isAlphanum, isAlpha]
  rfl

section Readers

variable {text rest : List Char} {name : String}

theorem closes_iff : Closes text rest ↔ text.dropWhile (· != '>') = '>' :: rest := by
  constructor
  · rintro ⟨others, rfl, notInside⟩
    refine dropWhile_append_of_ends ?_ (by simp)
    intro c member
    rw [bne_iff_ne]
    rintro rfl
    exact notInside member
  · intro closes
    refine ⟨text.takeWhile (· != '>'), ?_, ?_⟩
    · rw [← closes, List.takeWhile_append_dropWhile]
    · intro isInside
      have differs := List.all_eq_true.mp List.all_takeWhile _ isInside
      simp at differs

private theorem eq_of_dropWhile_eq_cons {c : Char} (stops : text.dropWhile (· != '>') = c :: rest) :
    c = '>' := by
  have isClosing := List.head?_dropWhile_not (· != '>') text
  rw [stops] at isClosing
  simpa using isClosing

theorem recognizes_tagName? : Recognizes tagName? fun text name rest =>
    ∃ behind, TagName text name behind ∧ Closes behind rest := by
  intro text name rest
  constructor
  · rintro ⟨taken, found, rfl, rfl⟩
    simp only [tagName?, Option.bind_eq_bind, Option.bind_eq_some_iff] at found
    obtain ⟨word, isWord, found⟩ := found
    obtain ⟨split, isRun⟩ := takes_run?_iff.mp ⟨word, isWord, rfl, rfl⟩
    split at found
    · cases found
    · rename_i ends
      split at found
      · cases found
      · rename_i c behind stops
        cases found
        rw [eq_of_dropWhile_eq_cons stops] at stops
        rw [← String.toList_ofList (l := word.value)] at split isRun
        refine ⟨word.rest, ⟨split, isRun, ?_⟩, closes_iff.mpr stops⟩
        intro c isHead
        rw [Option.mem_def.mp isHead] at ends
        simpa using ends
  · rintro ⟨behind, ⟨split, isRun, ends⟩, closes⟩
    obtain ⟨word, isWord, isName, rfl⟩ := takes_run?_iff.mpr ⟨split, isRun⟩
    have closing := closes_iff.mp closes
    have noWord : word.rest.head?.any isWordChar = false := by
      cases isHead : word.rest.head? with
      | none => rfl
      | some c => exact ends c isHead
    unfold Takes tagName?
    simp only [isWord, Option.bind_eq_bind, Option.bind_some, noWord, Bool.false_eq_true, if_false]
    split
    · rename_i noClosing
      rw [closing] at noClosing
      cases noClosing
    · rename_i c others isOther
      have same := isOther.symm.trans closing
      cases same
      exact ⟨_, rfl, by rw [isName, String.ofList_toList], rfl⟩

/-- A name does not begin with the slash of a closing tag. -/
theorem head?_ne_slash_of_isRun {word : List Char}
    (isRun : IsRun Char.isAlpha Char.isAlphanum word rest) (back : List Char) :
    (word ++ back).head? ≠ some '/' := by
  obtain ⟨first, more, rfl, isAlpha, _⟩ := isRun.begins
  rintro isHead
  cases isHead
  cases isAlpha

/-- The scan for tags takes what is a tag. -/
theorem recognizes_tag? : Recognizes tag? Tags := by
  intro text name rest
  constructor
  · rintro ⟨taken, found, rfl, rfl⟩
    unfold tag? at found
    split at found
    · obtain ⟨inner, isInner, rfl⟩ := Option.map_eq_some_iff.mp found
      obtain ⟨behind, named, closes⟩ := recognizes_tagName?.begins_of_some isInner
      exact ⟨behind, ⟨['/'], _, .inr rfl, rfl, named⟩, closes⟩
    · obtain ⟨inner, isInner, rfl⟩ := Option.map_eq_some_iff.mp found
      obtain ⟨behind, named, closes⟩ := recognizes_tagName?.begins_of_some isInner
      exact ⟨behind, ⟨[], _, .inl rfl, rfl, named⟩, closes⟩
    · cases found
  · rintro ⟨behind, ⟨slash, text, isSlash, rfl, named⟩, closes⟩
    obtain ⟨inner, isInner, rfl, rfl⟩ := (recognizes_tagName? _ _ _).mpr ⟨behind, named, closes⟩
    rcases isSlash with rfl | rfl
    · have isOpening : ∀ other, text = '/' :: other → False := by
        rintro other rfl
        have noSlash := head?_ne_slash_of_isRun named.2.1 behind
        rw [← named.1] at noSlash
        exact noSlash rfl
      show Takes tag? ('<' :: text) _ _
      exact ⟨_, by rw [tag?.eq_2 _ isOpening, isInner, Option.map_some], rfl, rfl⟩
    · show Takes tag? ('<' :: '/' :: text) _ _
      exact ⟨_, by rw [tag?, isInner, Option.map_some], rfl, rfl⟩

private theorem suffix_of_opensTag (opens : OpensTag text name rest) : rest <:+ text := by
  obtain ⟨slash, _, _, rfl, rfl, _⟩ := opens
  exact ⟨'<' :: (slash ++ name.toList), by simp⟩

theorem leavesSuffix_tag? : LeavesSuffix tag? := by
  refine recognizes_tag?.leavesSuffix ?_
  rintro text name rest ⟨behind, opens, others, rfl, _⟩
  exact List.IsSuffix.trans ⟨others ++ ['>'], by simp⟩ (suffix_of_opensTag opens)

end Readers

/-! ## Pattern -/

/-- `</?([a-zA-Z][a-zA-Z0-9]*)\b[^>]*>`. -/
def tagPattern : Pattern :=
  inOrder [literal ['<'], optional '/', captured (run Char.isAlpha Char.isAlphanum),
    edge, many (· != '>'), literal ['>']]

section Patterns

variable {text : List Char} {start stop : Nat} {captures : List String}

private theorem isWordChar_of_isAlphanum {c : Char} (isAlphanum : c.isAlphanum = true) :
    isWordChar c = true := by
  rw [isWordChar, if_pos (toNat_lt_of_isAlphanum isAlphanum), isAlphanum]
  rfl

/-- Behind a name is the edge of a word where no character of a word follows. -/
theorem isBoundary_iff {word : List Char} (isRun : IsRun Char.isAlpha Char.isAlphanum word
    (text.drop stop)) (spells : Spells text start word stop) :
    isBoundary (before text stop) (after text stop) = true ↔
      ∀ c ∈ (text.drop stop).head?, isWordChar c = false := by
  obtain ⟨first, more, rfl, isAlpha, inMore⟩ := isRun.begins
  have inWord : (before text stop).any isWordChar = true := by
    rw [spells.before_eq, List.getLast?_eq_some_getLast (List.cons_ne_nil first more)]
    apply isWordChar_of_isAlphanum
    rcases List.mem_cons.mp (List.getLast_mem (List.cons_ne_nil first more)) with isFirst | later
    · rw [isFirst]
      exact isAlphanum_of_isAlpha isAlpha
    · exact inMore _ later
  rw [isBoundary, inWord, after]
  cases (text.drop stop).head? with
  | none => simp
  | some c => simp

private theorem closes_of_spells_iff {position : Nat} :
    (∃ others closed, ((∀ c ∈ others, (c != '>') = true) ∧
        (∀ c ∈ (text.drop closed).head?, (c != '>') = false) ∧
        Spells text position others closed) ∧ Spells text closed ['>'] stop) ↔
      stop ≤ text.length ∧ Closes (text.drop position) (text.drop stop) := by
  have differs : ∀ others : List Char, (∀ c ∈ others, (c != '>') = true) ↔ '>' ∉ others := by
    intro others
    simp only [bne_iff_ne]
    exact ⟨fun inside isMember => inside _ isMember rfl,
      fun notInside c isMember same => notInside (same ▸ isMember)⟩
  simp only [differs]
  constructor
  · rintro ⟨others, closed, ⟨notInside, _, spells⟩, closing⟩
    have whole := spells_append_iff.mpr ⟨closed, spells, closing⟩
    obtain ⟨inText, split⟩ := (spells_iff (by simp)).mp whole
    exact ⟨inText, others, by simpa using split, notInside⟩
  · rintro ⟨inText, others, split, notInside⟩
    have whole : Spells text position (others ++ ['>']) stop := by
      rw [spells_iff (by simp)]
      exact ⟨inText, by simpa using split⟩
    obtain ⟨closed, spells, closing⟩ := spells_append_iff.mp whole
    exact ⟨others, closed, ⟨notInside, closing.ends (by decide), spells⟩, closing⟩

theorem at_opensTag_iff {name : String} :
    At text OpensTag start name stop ↔
      ∃ opened, Spells text start ['<'] opened ∧ ∃ slash named,
        ((slash = ['/'] ∨ slash = [] ∧ after text named ≠ some '/') ∧
          Spells text opened slash named) ∧
        (IsRun Char.isAlpha Char.isAlphanum name.toList (text.drop stop) ∧
          Spells text named name.toList stop) ∧
        isBoundary (before text stop) (after text stop) = true := by
  constructor
  · rintro ⟨inText, slash, _, isSlash, split, rfl, isRun, ends⟩
    have whole : Spells text start (['<'] ++ (slash ++ name.toList)) stop := by
      rw [spells_iff (by simp)]
      exact ⟨inText, by simpa using split⟩
    simp only [spells_append_iff] at whole
    obtain ⟨opened, opening, named, isSpelled, isNamed⟩ := whole
    refine ⟨opened, opening, slash, named, ⟨?_, isSpelled⟩, ⟨isRun, isNamed⟩,
      (isBoundary_iff isRun isNamed).mpr ends⟩
    rcases isSlash with rfl | rfl
    · right
      rw [after, isNamed.drop_eq]
      exact ⟨rfl, head?_ne_slash_of_isRun isRun _⟩
    · exact .inl rfl
  · rintro ⟨opened, opening, slash, named, ⟨isSlash, isSpelled⟩, ⟨isRun, isNamed⟩, isEdge⟩
    have whole := spells_append_iff.mpr ⟨_, opening, spells_append_iff.mpr ⟨_, isSpelled, isNamed⟩⟩
    obtain ⟨inText, split⟩ := (spells_iff (by simp)).mp whole
    refine ⟨inText, slash, _, ?_, by simpa using split, rfl, isRun,
      (isBoundary_iff isRun isNamed).mp isEdge⟩
    rcases isSlash with rfl | ⟨rfl, _⟩
    · exact .inr rfl
    · exact .inl rfl

/-- The pattern of a tag matches what is a tag. -/
theorem matchesAt_tagPattern_iff :
    MatchesAt text tagPattern start captures stop ↔
      ∃ name, At text Tags start name stop ∧ captures = [name] := by
  have rejectsClosing : (literal ['>']).Rejects (Next (· != '>')) := rejects_literal (by decide)
  have rejectsName : ∀ second, (sequence (captured (run Char.isAlpha Char.isAlphanum))
      second).Rejects (Next (· == '/')) := by
    intro second
    refine (rejects_run ?_).captured.sequence
    intro c isSlash
    rw [beq_iff_eq.mp isSlash]
    rfl
  have parts : ∀ name, At text Tags start name stop ↔ ∃ position,
      At text OpensTag start name position ∧
        stop ≤ text.length ∧ Closes (text.drop position) (text.drop stop) :=
    fun name => at_parts_iff fun _ _ _ => suffix_of_opensTag
  unfold MatchesAt tagPattern
  simp only [inOrder, preferred_literal_sequence_iff, preferred_optional_sequence_iff (rejectsName _),
    preferred_captured_run_edge_iff (fun _ => isAlphanum_of_isAlpha)
      (fun _ => isWordChar_of_isAlphanum),
    preferred_many_sequence_iff rejectsClosing, preferred_literal_iff, parts, at_opensTag_iff,
    ← closes_of_spells_iff]
  constructor
  · rintro ⟨opened, opening, slash, named, isSlash, word, position, ⟨isRun, isNamed⟩, isEdge, others,
      closed, isOther, closing, rfl⟩
    exact ⟨String.ofList word, ⟨position, ⟨opened, opening, slash, named, isSlash,
      by simpa using ⟨isRun, isNamed⟩, isEdge⟩, others, closed, isOther, closing⟩, rfl⟩
  · rintro ⟨name, ⟨position, ⟨opened, opening, slash, named, isSlash, isNamed, isEdge⟩, others,
      closed, isOther, closing⟩, rfl⟩
    exact ⟨opened, opening, slash, named, isSlash, name.toList, position, isNamed, isEdge, others,
      closed, isOther, closing, by simp⟩

end Patterns

/-! ## Marked-up texts -/

/-- The lower-case form of a name in ASCII. -/
def lowered (name : String) : String :=
  String.ofList (name.toList.map Char.toLower)

/-- Names that are ASCII are lower-cased character by character. -/
theorem items_ofList_of_ascii {kind : TokenKind} (noCase : kind.isCaseInsensitive = true)
    {names : List String} (areAscii : ∀ name ∈ names, ∀ c ∈ name.toList, c.toNat < 0x80) :
    (TokenSet.ofList kind names).items = (names.map lowered).eraseDups := by
  rw [TokenSet.items_ofList]
  congr 1
  apply List.map_congr_left
  intro name member
  rw [TokenKind.normalize_of_isCaseInsensitive noCase, lowercase,
    lowercaseAfter_of_ascii (areAscii name member), lowered]

private theorem items_ofList_htmlTag {names : List String}
    (areNames : ∀ name ∈ names, ∃ rest, IsRun Char.isAlpha Char.isAlphanum name.toList rest) :
    (TokenSet.ofList .htmlTag names).items = (names.map lowered).eraseDups := by
  apply items_ofList_of_ascii rfl
  intro name member c inName
  obtain ⟨rest, ⟨first, more, isFirst, isAlpha, inMore⟩, _⟩ := areNames name member
  rw [isFirst] at inName
  apply toNat_lt_of_isAlphanum
  rcases List.mem_cons.mp inName with rfl | later
  · exact isAlphanum_of_isAlpha isAlpha
  · exact inMore c later

/-- A name for a tag: an ASCII letter, then ASCII letters and digits. -/
structure TagWord where
  text : String
  isWord : IsRun Char.isAlpha Char.isAlphanum text.toList []

/-- An element with an attribute and no content. -/
def TagWord.element (word : TagWord) : String :=
  "<" ++ word.text ++ " id='x'></" ++ word.text ++ ">"

/-- An element is two tags of one name. -/
theorem scan_element (word : TagWord) (rest : List Char) :
    scan tag? (word.element.toList ++ rest) = word.text :: word.text :: scan tag? rest := by
  have named : ∀ c text, isWordChar c = false →
      TagName (word.text.toList ++ c :: text) word.text (c :: text) := by
    intro c text outside
    refine ⟨rfl, ⟨word.isWord.begins, ?_⟩, ?_⟩
    · intro other isHead
      cases isHead
      rw [Bool.eq_false_iff]
      intro inside
      rw [isWordChar_of_isAlphanum inside] at outside
      cases outside
    · intro other isHead
      cases isHead
      exact outside
  have split : word.element.toList ++ rest = '<' :: (word.text.toList ++
      ' ' :: (['i', 'd', '=', '\'', 'x', '\''] ++ '>' :: '<' :: '/' :: (word.text.toList ++
        '>' :: rest))) := by
    simp only [TagWord.element, String.toList_append, List.append_assoc]
    rfl
  have opening : Tags (word.element.toList ++ rest) word.text
      ('<' :: '/' :: (word.text.toList ++ '>' :: rest)) :=
    ⟨_, ⟨[], _, .inl rfl, split, named ' ' _ (by decide)⟩, [' ', 'i', 'd', '=', '\'', 'x', '\''],
      rfl, by decide⟩
  have closing : Tags ('<' :: '/' :: (word.text.toList ++ '>' :: rest)) word.text rest :=
    ⟨_, ⟨['/'], _, .inr rfl, rfl, named '>' rest (by decide)⟩, [], rfl, List.not_mem_nil⟩
  rw [recognizes_tag?.scan_eq_cons opening, recognizes_tag?.scan_eq_cons closing]

theorem items_tagNames_elements (words : List TagWord) :
    (tagNames (String.join (words.map TagWord.element))).items =
      (words.map fun word => lowered word.text).eraseDups := by
  have scanned : scan tag? (String.join (words.map TagWord.element)).toList =
      words.flatMap fun word => [word.text, word.text] := by
    induction words with
    | nil => simp [scan]
    | cons word words inductionHypothesis =>
        rw [List.map_cons, String.join_cons, String.toList_append, scan_element, inductionHypothesis]
        rfl
  -- The second tag of an element adds nothing.
  have once : ∀ (words : List TagWord) (set : TokenSet),
      (words.flatMap fun word => [word.text, word.text]).foldl TokenSet.insert set =
        (words.map TagWord.text).foldl TokenSet.insert set := by
    intro words
    induction words with
    | nil => exact fun _ => rfl
    | cons word words inductionHypothesis =>
        intro set
        rw [List.flatMap_cons, List.map_cons, List.foldl_append, inductionHypothesis]
        rw [List.foldl_cons, List.foldl_cons, List.foldl_nil, TokenSet.insert_insert,
          List.foldl_cons]
  rw [tagNames, scanned, TokenSet.ofList, once, ← TokenSet.ofList, items_ofList_htmlTag,
    List.map_map]
  · rfl
  · intro name member
    obtain ⟨word, _, rfl⟩ := List.mem_map.mp member
    exact ⟨[], word.isWord⟩

/-- **The names of the tags are what their grammar reads**, lower-cased, each where it occurs first.
Of elements that are written one behind the other, these are the names of the elements. -/
theorem tagNames_reads_tags :
    (∀ text : String, ∃ names, (tagNames text).items = (names.map lowered).eraseDups ∧
      ReadsNames Tags tagPattern text.toList names) ∧
    ∀ words : List TagWord, (tagNames (String.join (words.map TagWord.element))).items =
      (words.map fun word => lowered word.text).eraseDups := by
  refine ⟨fun text => ?_, items_tagNames_elements⟩
  have named : ∀ place name rest, Tags place name rest →
      ∃ behind, IsRun Char.isAlpha Char.isAlphanum name.toList behind := by
    rintro place name rest ⟨behind, ⟨_, _, _, _, _, isRun, _⟩, _⟩
    exact ⟨behind, isRun⟩
  have notEmpty : ∀ place name rest, Tags place name rest → name ≠ "" := by
    rintro place _ rest isTag rfl
    obtain ⟨_, ⟨first, more, isFirst, _⟩, _⟩ := named _ _ _ isTag
    cases isFirst
  have reads := readsNames_scan recognizes_tag? leavesSuffix_tag? notEmpty
    (fun _ _ _ _ => matchesAt_tagPattern_iff) text.toList
  exact ⟨_, items_ofList_htmlTag (reads.reading.forall_mem fun _ _ _ isThere => named _ _ _ isThere.2),
    reads⟩

end WebCompat.Scan
