import WebCompat.Proofs.Distinct
import WebCompat.Proofs.Text.Casing
import WebCompat.Token.Set

/-!
Token sets as the normal forms of what was put into them.

Owns: what one addition does to a set that holds the normal forms of some texts; a sequence of
additions with the answers to them; and what a set that was filled in this way can be relied on for.
-/

namespace WebCompat

theorem TokenKind.normalize_of_isCaseInsensitive {kind : TokenKind}
    (noCase : kind.isCaseInsensitive = true) : kind.normalize = Text.lowercase := by
  funext raw
  rw [normalize, if_pos noCase]

theorem TokenKind.normalize_of_not_isCaseInsensitive {kind : TokenKind}
    (keepsCase : kind.isCaseInsensitive = false) : kind.normalize = id := by
  funext raw
  rw [normalize, keepsCase]
  rfl

/-- A normal form is its own normal form. -/
@[simp] theorem TokenKind.normalize_normalize (kind : TokenKind) (raw : String) :
    kind.normalize (kind.normalize raw) = kind.normalize raw := by
  cases noCase : kind.isCaseInsensitive with
  | true =>
      rw [normalize_of_isCaseInsensitive noCase]
      exact Text.lowercase_lowercase raw
  | false => rw [normalize_of_not_isCaseInsensitive noCase, id, id]

namespace TokenSet

/-- What has been put into a set is not put into it again. -/
theorem insert_insert (set : TokenSet) (raw : String) :
    (set.insert raw).insert raw = set.insert raw := by
  have isKnown : (set.insert raw).kind.normalize raw ∈ (set.insert raw).items := by
    rw [kind_insert, items_insert]
    split
    · assumption
    · simp
  rw [insert, dif_pos isKnown]

/-- A set is asked for normal forms. -/
theorem contains_iff {set : TokenSet} {raw : String} :
    set.contains raw = true ↔ set.kind.normalize raw ∈ set.items := by
  rw [contains, List.contains_iff_mem]

theorem eq_iff {set other : TokenSet} :
    set = other ↔ set.kind = other.kind ∧ set.items = other.items := by
  constructor
  · rintro rfl
    exact ⟨rfl, rfl⟩
  · rintro ⟨sameKind, sameItems⟩
    cases set
    cases other
    cases sameKind
    cases sameItems
    rfl

/-! ## One addition -/

/-- A set of a kind that holds the normal forms of texts, each where it occurs first. -/
structure Collects (set : TokenSet) (kind : TokenKind) (raws : List String) : Prop where
  ofKind : set.kind = kind
  items : set.items = (raws.map kind.normalize).eraseDups

section Collects

variable {set other : TokenSet} {kind : TokenKind} {raws : List String}

theorem collects_empty (kind : TokenKind) : (empty kind).Collects kind [] :=
  ⟨rfl, rfl⟩

theorem Collects.mem_items_iff (collects : set.Collects kind raws) {item : String} :
    item ∈ set.items ↔ ∃ raw ∈ raws, item = kind.normalize raw := by
  rw [collects.items, List.mem_eraseDups, List.mem_map]
  simp only [eq_comm]

/-- A set is told by its category and the texts that were added. -/
theorem Collects.eq (collects : set.Collects kind raws) (again : other.Collects kind raws) :
    set = other :=
  eq_iff.mpr ⟨collects.ofKind.trans again.ofKind.symm, collects.items.trans again.items.symm⟩

/-- **An addition** adds a text to those whose normal forms the set holds. -/
theorem Collects.insert (collects : set.Collects kind raws) (raw : String) :
    (set.insert raw).Collects kind (raws ++ [raw]) where
  ofKind := (kind_insert set raw).trans collects.ofKind
  items := by
    rw [items_insert, collects.ofKind, collects.items, List.map_append, List.map_singleton,
      eraseDups_concat]
    simp only [List.mem_eraseDups]

/-- The answer to an addition: whether no text before has the same normal form. -/
theorem Collects.add_answer (collects : set.Collects kind raws) (raw : String) :
    (set.add raw).1 = true ↔ ∀ earlier ∈ raws, kind.normalize earlier ≠ kind.normalize raw := by
  rw [add, Bool.not_eq_true', Bool.eq_false_iff, ne_eq, contains_iff, collects.ofKind,
    collects.mem_items_iff]
  simp only [not_exists, not_and, ne_eq, eq_comm]

end Collects

/-! ## Sequences of additions -/

/-- Adds raw texts one after the other, with the answer to each addition. -/
def addAll (set : TokenSet) : List String → List Bool × TokenSet
  | [] => ([], set)
  | raw :: raws =>
      let (isNew, next) := set.add raw
      let (answers, last) := next.addAll raws
      (isNew :: answers, last)

section AddAll

variable {set : TokenSet} {kind : TokenKind} {before raws : List String}

private theorem addAll_snd (set : TokenSet) (raws : List String) :
    (set.addAll raws).2 = raws.foldl insert set := by
  induction raws generalizing set with
  | nil => rfl
  | cons raw raws inductionHypothesis =>
      rw [List.foldl_cons, ← inductionHypothesis]
      rfl

/-- **A sequence of additions** adds all its texts. The induction is the sequence. -/
theorem Collects.addAll (collects : set.Collects kind before) (raws : List String) :
    (set.addAll raws).2.Collects kind (before ++ raws) := by
  induction raws generalizing set before with
  | nil => rwa [List.append_nil]
  | cons raw raws inductionHypothesis =>
      rw [List.append_cons]
      exact inductionHypothesis (collects.insert raw)

private theorem length_answers (set : TokenSet) (raws : List String) :
    (set.addAll raws).1.length = raws.length := by
  induction raws generalizing set with
  | nil => rfl
  | cons raw raws inductionHypothesis => exact congrArg (· + 1) (inductionHypothesis _)

/-- Each answer in a sequence compares its text with all texts before it. -/
theorem Collects.answers (collects : set.Collects kind before) {front back : List String}
    {raw : String} :
    ∃ isNew, (set.addAll (front ++ raw :: back)).1[front.length]? = some isNew ∧
      (isNew = true ↔
        ∀ earlier ∈ before ++ front, kind.normalize earlier ≠ kind.normalize raw) := by
  induction front generalizing set before with
  | nil =>
      rw [List.append_nil]
      exact ⟨_, rfl, collects.add_answer raw⟩
  | cons first front inductionHypothesis =>
      rw [List.append_cons before]
      exact inductionHypothesis (collects.insert first)

end AddAll

/-- The set of a sequence of texts holds their normal forms. -/
theorem collects_ofList (kind : TokenKind) (raws : List String) :
    (ofList kind raws).Collects kind raws := by
  rw [ofList, ← addAll_snd]
  exact (collects_empty kind).addAll raws

@[simp] theorem kind_ofList (kind : TokenKind) (raws : List String) :
    (ofList kind raws).kind = kind :=
  (collects_ofList kind raws).ofKind

/-- The items of a set are the normal forms of the texts that it was made of, each where it occurs
first. -/
theorem items_ofList (kind : TokenKind) (raws : List String) :
    (ofList kind raws).items = (raws.map kind.normalize).eraseDups :=
  (collects_ofList kind raws).items

theorem mem_items_ofList (kind : TokenKind) (raws : List String) (item : String) :
    item ∈ (ofList kind raws).items ↔ ∃ raw ∈ raws, item = kind.normalize raw :=
  (collects_ofList kind raws).mem_items_iff

/-! ## Sets that were filled by additions -/

section Filled

variable {set : TokenSet} {kind : TokenKind} {raws : List String}

/-- The items of a set are in normal form. -/
theorem Collects.normalize_of_mem (collects : set.Collects kind raws) {item : String}
    (isItem : item ∈ set.items) : kind.normalize item = item := by
  obtain ⟨raw, _, rfl⟩ := collects.mem_items_iff.mp isItem
  exact kind.normalize_normalize raw

/-- A set holds the normal forms of its own items. -/
theorem Collects.items_again (collects : set.Collects kind raws) :
    set.Collects kind set.items where
  ofKind := collects.ofKind
  items := by
    have areNormal : set.items.map kind.normalize = set.items :=
      (List.map_congr_left fun _ isItem => collects.normalize_of_mem isItem).trans (List.map_id _)
    rw [areNormal, eraseDups_of_nodup set.nodup]

end Filled

/-- What a set of a kind that was filled by additions can be relied on for, and the answers to
them. -/
structure IsFilled (kind : TokenKind) (raws : List String) (answers : List Bool) (set : TokenSet) :
    Prop where
  ofKind : set.kind = kind
  /-- An addition is answered with yes if no text before it has the same normal form. -/
  answered : answers.length = raws.length ∧ ∀ front raw back, raws = front ++ raw :: back →
    ∃ isNew, answers[front.length]? = some isNew ∧
      (isNew = true ↔ ∀ earlier ∈ front, kind.normalize earlier ≠ kind.normalize raw)
  /-- The items are the normal forms, each of them once and where it occurs first. -/
  items : set.items = (raws.map kind.normalize).eraseDups ∧ set.items.Nodup
  contains_iff : ∀ raw, set.contains raw = true ↔ kind.normalize raw ∈ set.items
  /-- Every item is its own normal form, and is found. -/
  fixed : ∀ item ∈ set.items, kind.normalize item = item ∧ set.contains item = true
  /-- The items make the same set once more. -/
  again : ((empty kind).addAll set.items).2 = set

/-- **Token sets hold normal forms.** What is added to a new set is told by the normal forms of the
texts alone. They are the texts themselves where case matters, and elsewhere the texts in lower case:
each character in the form that the standard gives it, with a dotted capital I taken apart and a
final sigma exactly at the end of a word. Two sets are compared by their kinds and by their items in
order. -/
theorem additions_keep_normal_forms (kind : TokenKind) (raws : List String) :
    (∃ answers set, (empty kind).addAll raws = (answers, set) ∧ IsFilled kind raws answers set) ∧
      (∀ raw, kind.normalize raw =
        if kind = .jsFunction ∨ kind = .jsVariable then raw else Text.lowercase raw) ∧
      (∀ (raw : String) (lowered : List Char),
        Text.Lowers raw.toList lowered ↔ lowered = (Text.lowercase raw).toList) ∧
      Text.ClassesAreKnown ∧
      ∀ set other : TokenSet,
        (set == other) = true ↔ set.kind = other.kind ∧ set.items = other.items := by
  refine ⟨⟨_, _, rfl, ?_⟩, ?_, fun _ _ => Text.lowers_iff, Text.classesAreKnown, ?_⟩
  · have collects : ((empty kind).addAll raws).2.Collects kind raws :=
      (collects_empty kind).addAll raws
    refine ⟨collects.ofKind, ⟨length_answers _ raws, ?_⟩, ⟨collects.items, TokenSet.nodup _⟩,
      ?_, ?_, ?_⟩
    · rintro front raw back rfl
      exact (collects_empty kind).answers
    · intro raw
      rw [TokenSet.contains_iff, collects.ofKind]
    · intro item isItem
      have isNormal := collects.normalize_of_mem isItem
      rw [TokenSet.contains_iff, collects.ofKind, isNormal]
      exact ⟨rfl, isItem⟩
    · exact ((collects_empty kind).addAll _).eq collects.items_again
  · intro raw
    cases kind <;> rfl
  · intro set other
    rw [beq_iff_eq, eq_iff]

end TokenSet

end WebCompat
