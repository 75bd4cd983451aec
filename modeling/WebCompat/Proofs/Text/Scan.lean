import WebCompat.Text.Taken

/-!
Scans as walks over the places of a text. A place is what is left of the text there; a scan goes
from match to match, and passes a place only if no match begins at it or if it lies inside of the
match before.

Owns: what the steps of a reader take off the front; the places at which a scan finds its matches;
and that a match which a scan passes over begins inside of one that the scan has taken.
-/

namespace WebCompat.Text

/-! ## Runs at the front -/

theorem takeWhile_append_of_ends {inClass : Char → Bool} {run rest : List Char}
    (inside : ∀ c ∈ run, inClass c = true) (ends : ∀ c ∈ rest.head?, inClass c = false) :
    (run ++ rest).takeWhile inClass = run := by
  rw [List.takeWhile_append_of_pos inside]
  cases rest with
  | nil => simp
  | cons c rest => simp [ends c rfl]

theorem dropWhile_append_of_ends {inClass : Char → Bool} {run rest : List Char}
    (inside : ∀ c ∈ run, inClass c = true) (ends : ∀ c ∈ rest.head?, inClass c = false) :
    (run ++ rest).dropWhile inClass = rest := by
  rw [List.dropWhile_append_of_pos inside]
  cases rest with
  | nil => rfl
  | cons c rest => exact List.dropWhile_cons_of_neg (by simp [ends c rfl])

/-! ## What a step takes -/

theorem append_rest_of_word? {more : List Char} {first : Char} {text : List Char}
    {taken : Taken Unit text} (found : word? first more text = some taken) :
    text = first :: more ++ taken.rest := by
  induction more generalizing first text with
  | nil =>
      cases text with
      | nil => cases found
      | cons c text =>
          rw [word?] at found
          split at found
          · rename_i isFirst
            cases found
            rw [isFirst]
            rfl
          · cases found
  | cons next others inductionHypothesis =>
      cases text with
      | nil => cases found
      | cons c text =>
          rw [word?] at found
          split at found
          · rename_i isFirst
            obtain ⟨later, foundLater, rfl⟩ := Option.map_eq_some_iff.mp found
            have split := inductionHypothesis foundLater
            rw [isFirst]
            exact congrArg (first :: ·) split
          · cases found

/-- A word is taken only where its first character stands. -/
theorem word?_eq_none {first c : Char} {more text : List Char} (isHead : text.head? = some c)
    (differs : c ≠ first) : word? first more text = none := by
  cases text with
  | nil => cases isHead
  | cons head text =>
      cases isHead
      cases more <;> rw [word?, if_neg differs]

/-- White space is taken as a whole. -/
theorem exists_of_blanks? {text : List Char} {taken : Taken Unit text}
    (found : blanks? text = some taken) :
    ∃ space, text = space ++ taken.rest ∧ space ≠ [] ∧ (∀ c ∈ space, isBlank c = true) ∧
      ∀ c ∈ taken.rest.head?, isBlank c = false := by
  cases text with
  | nil => cases found
  | cons c text =>
      rw [blanks?] at found
      split at found
      · rename_i blank
        cases found
        refine ⟨c :: text.takeWhile isBlank, ?_, List.cons_ne_nil _ _, ?_, ?_⟩
        · show c :: text = c :: text.takeWhile isBlank ++ text.dropWhile isBlank
          rw [List.cons_append, List.takeWhile_append_dropWhile]
        · intro other member
          rcases List.mem_cons.mp member with rfl | later
          · exact blank
          · exact List.all_eq_true.mp List.all_takeWhile other later
        · intro other isHead
          have stops := List.head?_dropWhile_not isBlank text
          rw [show (text.dropWhile isBlank).head? = some other from isHead] at stops
          exact stops
      · cases found

/-- A run is taken as a whole. -/
theorem exists_of_run? {starts continues : Char → Bool} {text : List Char}
    {taken : Taken (List Char) text} (found : run? starts continues text = some taken) :
    text = taken.value ++ taken.rest ∧
      (∃ first more, taken.value = first :: more ∧ starts first = true ∧
        ∀ c ∈ more, continues c = true) ∧
      ∀ c ∈ taken.rest.head?, continues c = false := by
  cases text with
  | nil => cases found
  | cons c text =>
      rw [run?] at found
      split at found
      · rename_i isStart
        cases found
        refine ⟨?_, ⟨c, text.takeWhile continues, rfl, isStart, ?_⟩, ?_⟩
        · show c :: text = c :: text.takeWhile continues ++ text.dropWhile continues
          rw [List.cons_append, List.takeWhile_append_dropWhile]
        · intro other member
          exact List.all_eq_true.mp List.all_takeWhile other member
        · intro other isHead
          have stops := List.head?_dropWhile_not continues text
          rw [show (text.dropWhile continues).head? = some other from isHead] at stops
          exact stops
      · cases found

/-- Of two cuts of a text behind runs of a class, at places where the class ends, both are the
same. -/
theorem eq_of_append_eq_append {continues : Char → Bool} {run other rest back : List Char}
    (sameText : run ++ rest = other ++ back)
    (inRun : ∀ c ∈ run, continues c = true) (inOther : ∀ c ∈ other, continues c = true)
    (endsRun : ∀ c ∈ rest.head?, continues c = false)
    (endsOther : ∀ c ∈ back.head?, continues c = false) : run = other := by
  rw [← takeWhile_append_of_ends inRun endsRun, sameText,
    takeWhile_append_of_ends inOther endsOther]

/-! ## What a step leaves -/

/-- Whether a shape leaves a rest of its text. -/
def LeavesSuffix {α : Type} (shape : (text : List Char) → Option (Taken α text)) : Prop :=
  ∀ text found, shape text = some found → found.rest <:+ text

theorem leavesSuffix_word? (first : Char) (more : List Char) : LeavesSuffix (word? first more) := by
  intro text taken found
  exact ⟨first :: more, (append_rest_of_word? found).symm⟩

theorem leavesSuffix_blanks? : LeavesSuffix blanks? := by
  intro text taken found
  obtain ⟨space, split, _⟩ := exists_of_blanks? found
  exact ⟨space, split.symm⟩

theorem leavesSuffix_run? (starts continues : Char → Bool) :
    LeavesSuffix (run? starts continues) := by
  intro text taken found
  exact ⟨taken.value, (exists_of_run? found).1.symm⟩

theorem leavesSuffix_charAfterBlank? (expected : Char) :
    LeavesSuffix (charAfterBlank? expected) := by
  intro text taken found
  obtain ⟨later, isChar, rfl⟩ := Option.map_eq_some_iff.mp found
  exact (leavesSuffix_word? expected [] _ later isChar).trans (List.dropWhile_suffix isBlank)

/-! ## The places of a scan -/

section Places

variable {α : Type} (shape : (text : List Char) → Option (Taken α text))

/-- The places at which a scan finds its matches. -/
def places : List Char → List (List Char)
  | [] => []
  | c :: text =>
      match shape (c :: text) with
      | some found => (c :: text) :: places found.rest
      | none => places text
termination_by text => text.length
decreasing_by
  · exact found.shorter
  · simp

section Steps

variable {c : Char} {text : List Char}

theorem scan_of_some {found : Taken α (c :: text)} (isFound : shape (c :: text) = some found) :
    scan shape (c :: text) = found.value :: scan shape found.rest := by
  rw [scan, isFound]

theorem scan_of_none (notFound : shape (c :: text) = none) :
    scan shape (c :: text) = scan shape text := by
  rw [scan, notFound]

theorem places_of_some {found : Taken α (c :: text)} (isFound : shape (c :: text) = some found) :
    places shape (c :: text) = (c :: text) :: places shape found.rest := by
  rw [places, isFound]

theorem places_of_none (notFound : shape (c :: text) = none) :
    places shape (c :: text) = places shape text := by
  rw [places, notFound]

end Steps

theorem scan_eq_filterMap_places (text : List Char) :
    scan shape text =
      (places shape text).filterMap fun place => (shape place).map Taken.value := by
  induction text using places.induct shape with
  | case1 => simp [scan, places]
  | case2 c text found isFound inductionHypothesis =>
      rw [scan_of_some shape isFound, places_of_some shape isFound, List.filterMap_cons, isFound,
        inductionHypothesis]
      rfl
  | case3 c text notFound inductionHypothesis =>
      rw [scan_of_none shape notFound, places_of_none shape notFound, inductionHypothesis]

variable {shape}

theorem value_mem_scan {text place : List Char} {found : Taken α place}
    (isPlace : place ∈ places shape text) (isFound : shape place = some found) :
    found.value ∈ scan shape text := by
  rw [scan_eq_filterMap_places, List.mem_filterMap]
  exact ⟨place, isPlace, by rw [isFound]; rfl⟩

theorem suffix_of_mem_places (leaves : LeavesSuffix shape) {text place : List Char}
    (isPlace : place ∈ places shape text) : place <:+ text := by
  induction text using places.induct shape with
  | case1 =>
      rw [places] at isPlace
      cases isPlace
  | case2 c text found isFound inductionHypothesis =>
      rw [places_of_some shape isFound] at isPlace
      rcases List.mem_cons.mp isPlace with rfl | later
      · exact List.suffix_refl _
      · exact (inductionHypothesis later).trans (leaves _ found isFound)
  | case3 c text notFound inductionHypothesis =>
      rw [places_of_none shape notFound] at isPlace
      exact (inductionHypothesis isPlace).trans (List.suffix_cons c text)

/-- Where a match could begin, a scan either takes one or has taken one that begins before and
reaches over the place. The induction is the scan; a place behind the match that is taken first is
a place of what that match leaves. -/
theorem mem_places_or_covered (leaves : LeavesSuffix shape) {text place : List Char}
    (isSuffix : place <:+ text) (begins : (shape place).isSome = true) :
    place ∈ places shape text ∨
      ∃ opening found, opening ≠ [] ∧ opening ++ place ∈ places shape text ∧
        shape (opening ++ place) = some found ∧ found.rest.length < place.length := by
  induction text using places.induct shape with
  | case1 =>
      -- What a shape takes from is not empty.
      obtain ⟨found, _⟩ := Option.isSome_iff_exists.mp begins
      have isEmpty := List.suffix_nil.mp isSuffix
      subst isEmpty
      exact absurd found.shorter (Nat.not_lt_zero _)
  | case2 c text found isFound inductionHypothesis =>
      rw [places_of_some shape isFound]
      rcases Nat.lt_or_ge found.rest.length place.length with inside | behind
      · obtain ⟨opening, isText⟩ := isSuffix
        cases opening with
        | nil =>
            left
            rw [show place = c :: text from isText]
            exact List.mem_cons_self
        | cons other opening =>
            right
            refine ⟨other :: opening, ?_⟩
            rw [isText]
            exact ⟨found, List.cons_ne_nil _ _, List.mem_cons_self, isFound, inside⟩
      · have later : place <:+ found.rest :=
          List.suffix_of_suffix_length_le isSuffix (leaves _ found isFound) behind
        rcases inductionHypothesis later with isPlace | ⟨opening, taken, notEmpty, isPlace, rest⟩
        · exact .inl (List.mem_cons_of_mem _ isPlace)
        · exact .inr ⟨opening, taken, notEmpty, List.mem_cons_of_mem _ isPlace, rest⟩
  | case3 c text notFound inductionHypothesis =>
      rw [places_of_none shape notFound]
      rcases List.suffix_cons_iff.mp isSuffix with rfl | later
      · rw [notFound] at begins
        cases begins
      · exact inductionHypothesis later

end Places

end WebCompat.Text
