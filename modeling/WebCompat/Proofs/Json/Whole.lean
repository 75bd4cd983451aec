import Mathlib.Data.List.DropRight
import WebCompat.Proofs.Json.Schema

/-!
Whole documents: a value and nothing else but white space. What is read of a document is what its
tree means. A list or an object shows where it ends, so that no text is a document of one if a
shorter text is, unless there is only white space behind that.

Owns: that a document has one tree; that reading it is asking what the tree means; and which texts
are documents of lists and objects when others are.
-/

namespace WebCompat.Json

open Reader (take?)

variable {α : Type}

/-! ## Documents and their trees -/

def IsBlank (text : List Char) : Prop :=
  ∀ c ∈ text, isSpace c = true

private theorem skipSpace_eq_nil_iff {text : List Char} : skipSpace text = [] ↔ IsBlank text := by
  rw [skipSpace, List.dropWhile_eq_nil_iff]
  rfl

private theorem breaks_of_blank {rest : List Char} (blank : skipSpace rest = []) : Breaks rest := by
  cases rest with
  | nil => exact breaks_nil
  | cons c rest =>
      intro other isHead
      cases isHead
      by_cases isBlank : isSpace c = true
      · exact continuesNumber_of_isSpace isBlank
      · rw [skipSpace_of_head (Bool.eq_false_iff.mpr isBlank)] at blank
        cases blank

/-- **A text is the document of one tree at most.** -/
theorem Tree.eq_of_isDocument {tree other : Tree} {document : String}
    (isDocument : tree.IsDocument document) (alsoDocument : other.IsDocument document) :
    tree = other := by
  obtain ⟨rest, begins, blank⟩ := Tree.isDocument_iff.mp isDocument
  obtain ⟨left, alsoBegins, alsoBlank⟩ := Tree.isDocument_iff.mp alsoDocument
  exact (Tree.eq_of_after? begins (tree.endsAt_of_breaks (breaks_of_blank blank)) alsoBegins
    (other.endsAt_of_breaks (breaks_of_blank alsoBlank))).1

section Whole

variable {reader : Reader α} {meaning : Tree → Option α} (reads : Reads reader meaning)
  {document : String} {value : α}

theorem read_eq_ok_iff_take? :
    read reader document = .ok value ↔
      ∃ rest, take? reader document.toList = some (value, rest) ∧ skipSpace rest = [] := by
  unfold read take?
  dsimp only
  cases reader document.toList with
  | error fault => simp
  | ok taken =>
      dsimp only
      cases isBlank : skipSpace taken.rest <;> simp [isBlank]

include reads

/-- A document that was read has a tree, and the value is what the tree means. -/
theorem exists_of_read (isRead : read reader document = .ok value) :
    ∃ tree : Tree, tree.IsDocument document ∧ meaning tree = some value := by
  obtain ⟨rest, taken, blank⟩ := read_eq_ok_iff_take?.mp isRead
  obtain ⟨tree, begins, means⟩ := reads.sound taken
  exact ⟨tree, Tree.isDocument_iff.mpr ⟨rest, begins, blank⟩, means⟩

/-- **What is read of a document is what its tree means.** -/
theorem read_eq_ok_iff {tree : Tree} (isDocument : tree.IsDocument document) :
    read reader document = .ok value ↔ meaning tree = some value := by
  constructor
  · intro isRead
    obtain ⟨other, alsoDocument, means⟩ := exists_of_read reads isRead
    rw [Tree.eq_of_isDocument isDocument alsoDocument, means]
  · intro means
    obtain ⟨rest, begins, blank⟩ := Tree.isDocument_iff.mp isDocument
    have ends := tree.endsAt_of_breaks (breaks_of_blank blank)
    exact read_eq_ok_iff_take?.mpr ⟨rest, reads.complete begins ends means, blank⟩

end Whole

/-! ## Texts that go on -/

def Tree.IsContainer (tree : Tree) : Prop :=
  tree.kind = .list ∨ tree.kind = .object

theorem Tree.IsContainer.endsAt {tree : Tree} (isContainer : tree.IsContainer) (rest : List Char) :
    tree.EndsAt rest := by
  cases tree with
  | number => rcases isContainer with isKind | isKind <;> cases isKind
  | null | bool | text | list | object => trivial

/-- White space behind a text does not help to complete tokens. -/
theorem exists_of_after?_append_blank {tokens : List (List Char)}
    (areTokens : ∀ token ∈ tokens, IsToken token) {text blank rest : List Char}
    (isBlank : IsBlank blank) (begins : after? tokens (text ++ blank) = some rest) :
    ∃ left, after? tokens text = some left ∧ rest = left ++ blank := by
  induction tokens generalizing text with
  | nil =>
      cases begins
      exact ⟨text, rfl, rfl⟩
  | cons token tokens inductionHypothesis =>
      rw [List.forall_mem_cons] at areTokens
      obtain ⟨behind, split, later⟩ := after?_cons_eq_some_iff.mp begins
      have notBlank : skipSpace text ≠ [] := by
        intro isEmpty
        have allBlank : IsBlank (text ++ blank) :=
          List.forall_mem_append.mpr ⟨skipSpace_eq_nil_iff.mp isEmpty, isBlank⟩
        rw [skipSpace_eq_nil_iff.mpr allBlank] at split
        exact areTokens.1.notEmpty (List.append_eq_nil_iff.mp split.symm).1
      rw [skipSpace_append blank notBlank] at split
      rcases List.append_eq_append_iff.mp split with
        ⟨excess, isToken, isBehind⟩ | ⟨left, isText, rfl⟩
      · -- The token would end within the white space.
        obtain ⟨more, c, isEnd, notSpace⟩ := areTokens.1.ends
        rcases List.eq_nil_or_concat excess with rfl | ⟨init, d, rfl⟩
        · rw [List.append_nil] at isToken
          have onlyBlank : after? tokens ([] ++ blank) = some rest := by
            rw [isBehind]
            exact later
          obtain ⟨left, begins, same⟩ := inductionHypothesis areTokens.2 onlyBlank
          refine ⟨left, after?_cons_eq_some_iff.mpr ⟨[], ?_, begins⟩, same⟩
          rw [List.append_nil, isToken]
        · rw [isEnd, List.concat_eq_append, ← List.append_assoc] at isToken
          have same : c = d := by
            simpa using (List.append_inj' isToken rfl).2
          have isSpace := isBlank d (by rw [isBehind]; simp)
          rw [← same, notSpace] at isSpace
          cases isSpace
      · obtain ⟨rest', begins, same⟩ := inductionHypothesis areTokens.2 later
        exact ⟨rest', after?_cons_eq_some_iff.mpr ⟨left, isText, begins⟩, same⟩

section Extended

variable {tree other : Tree} {text more : String} (isContainer : tree.IsContainer)

/-- White space at the end of a document can be left out. -/
theorem Tree.IsDocument.of_append_blank (isBlank : IsBlank more.toList)
    (isDocument : tree.IsDocument (text ++ more)) : tree.IsDocument text := by
  obtain ⟨rest, begins, blank⟩ := Tree.isDocument_iff.mp isDocument
  rw [String.toList_append] at begins
  obtain ⟨left, textBegins, rfl⟩ := exists_of_after?_append_blank tree.isToken isBlank begins
  have leftBlank := (List.forall_mem_append.mp (skipSpace_eq_nil_iff.mp blank)).1
  exact Tree.isDocument_iff.mpr ⟨left, textBegins, skipSpace_eq_nil_iff.mpr leftBlank⟩

include isContainer

/-- **Behind a document of a list or an object there is only white space in a document.** -/
theorem Tree.isBlank_of_isDocument_append (isDocument : tree.IsDocument text)
    (longer : other.IsDocument (text ++ more)) : IsBlank more.toList := by
  obtain ⟨rest, begins, blank⟩ := Tree.isDocument_iff.mp isDocument
  obtain ⟨left, otherBegins, otherBlank⟩ := Tree.isDocument_iff.mp longer
  rw [String.toList_append] at otherBegins
  have goesOn : after? tree.tokens (text.toList ++ more.toList) = some (rest ++ more.toList) :=
    after?_append_text (fun token member => (tree.isToken token member).notEmpty) begins _
  obtain ⟨_, isLeft⟩ := Tree.eq_of_after? goesOn (isContainer.endsAt _) otherBegins
    (other.endsAt_of_breaks (breaks_of_blank otherBlank))
  rw [← isLeft] at otherBlank
  exact (List.forall_mem_append.mp (skipSpace_eq_nil_iff.mp otherBlank)).2

end Extended

def withoutTrailingSpace (text : String) : String :=
  String.ofList (text.toList.rdropWhile isSpace)

theorem exists_append_withoutTrailingSpace (text : String) :
    ∃ blank : String, withoutTrailingSpace text ++ blank = text ∧ IsBlank blank.toList := by
  refine ⟨String.ofList (text.toList.rtakeWhile isSpace), ?_, ?_⟩
  · rw [withoutTrailingSpace, ← String.ofList_append, List.rdropWhile_append_rtakeWhile,
      String.ofList_toList]
  · rw [String.toList_ofList]
    exact fun c member => List.mem_rtakeWhile_imp member

/-- Whatever white space ends a text is not part of it without that. -/
theorem eq_nil_of_append_eq_withoutTrailingSpace {text : String} {front blank : List Char}
    (split : front ++ blank = (withoutTrailingSpace text).toList) (isBlank : IsBlank blank) :
    blank = [] := by
  rcases List.eq_nil_or_concat blank with isEmpty | ⟨init, c, rfl⟩
  · exact isEmpty
  · rw [withoutTrailingSpace, String.toList_ofList, List.concat_eq_append,
      ← List.append_assoc] at split
    have notEmpty : text.toList.rdropWhile isSpace ≠ [] := by
      rw [← split]
      simp
    have notSpace := List.rdropWhile_last_not isSpace text.toList notEmpty
    simp only [← split, List.getLast_append_singleton] at notSpace
    exact absurd (isBlank c (by simp)) notSpace

end WebCompat.Json
