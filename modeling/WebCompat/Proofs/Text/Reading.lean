import WebCompat.Proofs.Text.Scan

/-!
Sequential readings: from a position on, the least position at which something begins, then on from
where that ends, until nothing begins any more. What begins where is said by a relation, so that a
reading says what is found without saying how it is looked for.

Owns: readings, that there is one at most if what begins is determined; and that a scan is the
reading of what its shape recognizes.
-/

namespace WebCompat.Text

/-- A reading from a position on. `begins` says what begins at a position, and where it ends. -/
inductive Reading {α : Type} (begins : Nat → α → Nat → Prop) : Nat → List α → Prop where
  | finished {start} (nothing : ∀ place, start ≤ place → ∀ value stop, ¬begins place value stop) :
      Reading begins start []
  | found {start place value stop values} (behind : start ≤ place)
      (least : ∀ earlier, start ≤ earlier → earlier < place →
        ∀ other back, ¬begins earlier other back)
      (here : begins place value stop) (later : Reading begins stop values) :
      Reading begins start (value :: values)

namespace Reading

variable {α β : Type} {begins : Nat → α → Nat → Prop} {start : Nat} {values : List α}

/-- Where nothing begins, a reading can as well start one further. -/
theorem of_succ (nothing : ∀ value stop, ¬begins start value stop)
    (reading : Reading begins (start + 1) values) : Reading begins start values := by
  cases reading with
  | finished later =>
      apply Reading.finished
      intro place behind
      rcases Nat.eq_or_lt_of_le behind with rfl | further
      · exact nothing
      · exact later place further
  | found behind least here later =>
      refine .found (Nat.le_of_succ_le behind) ?_ here later
      intro earlier fromStart inFront
      rcases Nat.eq_or_lt_of_le fromStart with rfl | further
      · exact nothing
      · exact least earlier further inFront

/-- There is one reading at most, if what begins at a position is determined. -/
theorem unique
    (determined : ∀ place value stop other back,
      begins place value stop → begins place other back → value = other ∧ stop = back)
    {others : List α} (reading : Reading begins start values)
    (again : Reading begins start others) : values = others := by
  induction reading generalizing others with
  | finished nothing =>
      cases again with
      | finished => rfl
      | found behind _ here _ => exact absurd here (nothing _ behind _ _)
  | @found start place value stop values behind least here later inductionHypothesis =>
      cases again with
      | finished nothing => exact absurd here (nothing _ behind _ _)
      | @found _ place' value' stop' values' behind' least' here' later' =>
          have samePlace : place = place' := by
            rcases Nat.lt_trichotomy place place' with before | same | after
            · exact absurd here (least' place behind before _ _)
            · exact same
            · exact absurd here' (least place' behind' after _ _)
          subst samePlace
          obtain ⟨rfl, rfl⟩ := determined place value stop value' stop' here here'
          rw [inductionHypothesis later']

theorem forall_mem {holds : α → Prop}
    (kept : ∀ place value stop, begins place value stop → holds value)
    (reading : Reading begins start values) : ∀ value ∈ values, holds value := by
  induction reading with
  | finished => exact fun _ isMember => absurd isMember List.not_mem_nil
  | found _ _ here _ inductionHypothesis =>
      intro value isMember
      rcases List.mem_cons.mp isMember with rfl | later
      · exact kept _ _ _ here
      · exact inductionHypothesis value later

/-- What begins may be told in other words. -/
theorem map {f : α → β} {other : Nat → β → Nat → Prop}
    (same : ∀ place value stop, other place value stop ↔
      ∃ inner, begins place inner stop ∧ value = f inner)
    (reading : Reading begins start values) : Reading other start (values.map f) := by
  induction reading with
  | finished nothing =>
      apply Reading.finished
      intro place behind value stop isThere
      obtain ⟨inner, isInner, _⟩ := (same place value stop).mp isThere
      exact nothing place behind inner stop isInner
  | found behind least here _ inductionHypothesis =>
      refine .found behind ?_ ((same _ _ _).mpr ⟨_, here, rfl⟩) inductionHypothesis
      intro earlier fromStart inFront value stop isThere
      obtain ⟨inner, isInner, _⟩ := (same earlier value stop).mp isThere
      exact least earlier fromStart inFront inner stop isInner

end Reading

/-! ## Shapes -/

/-- What a shape is to recognize: which value begins a text, and what it leaves of the text. -/
abbrev Grammar (α : Type) :=
  List Char → α → List Char → Prop

/-- What begins where in a text by a grammar. -/
def At {α : Type} (text : List Char) (begins : Grammar α) (start : Nat) (value : α) (stop : Nat) :
    Prop :=
  stop ≤ text.length ∧ begins (text.drop start) value (text.drop stop)

/-- What a shape takes off the front of a text. -/
def Takes {α : Type} (shape : (text : List Char) → Option (Taken α text)) : Grammar α :=
  fun text value rest => ∃ taken, shape text = some taken ∧ taken.value = value ∧ taken.rest = rest

/-- A shape recognizes a grammar if it takes just what begins by the grammar. -/
def Recognizes {α : Type} (shape : (text : List Char) → Option (Taken α text))
    (begins : Grammar α) : Prop :=
  ∀ text value rest, Takes shape text value rest ↔ begins text value rest

section Recognition

variable {α : Type} {shape : (text : List Char) → Option (Taken α text)} {begins : Grammar α}

theorem Recognizes.begins_of_some (recognizes : Recognizes shape begins) {text : List Char}
    {taken : Taken α text} (found : shape text = some taken) :
    begins text taken.value taken.rest :=
  (recognizes _ _ _).mp ⟨taken, found, rfl, rfl⟩

theorem Recognizes.leavesSuffix (recognizes : Recognizes shape begins)
    (leaves : ∀ text value rest, begins text value rest → rest <:+ text) : LeavesSuffix shape :=
  fun _ _ found => leaves _ _ _ (recognizes.begins_of_some found)

theorem Recognizes.not_begins (recognizes : Recognizes shape begins) {text : List Char}
    (nothing : shape text = none) (value : α) (rest : List Char) : ¬begins text value rest := by
  intro isThere
  obtain ⟨taken, isTaken, _⟩ := (recognizes text value rest).mpr isThere
  rw [nothing] at isTaken
  cases isTaken

/-- What begins a text is determined where a shape recognizes it. -/
theorem Recognizes.determined (recognizes : Recognizes shape begins) {text rest back : List Char}
    {value other : α} (isThere : begins text value rest) (again : begins text other back) :
    value = other ∧ rest = back := by
  obtain ⟨taken, isTaken, rfl, rfl⟩ := (recognizes text value rest).mpr isThere
  obtain ⟨same, isSame, rfl, rfl⟩ := (recognizes text other back).mpr again
  rw [isTaken] at isSame
  cases isSame
  exact ⟨rfl, rfl⟩

/-- A shape recognizes at most one value at a position. -/
theorem Recognizes.at_determined (recognizes : Recognizes shape begins) {text : List Char}
    {start stop back : Nat} {value other : α} (isThere : At text begins start value stop)
    (again : At text begins start other back) : value = other ∧ stop = back := by
  obtain ⟨sameValue, sameRest⟩ := recognizes.determined isThere.2 again.2
  have sameLength := congrArg List.length sameRest
  have inText := isThere.1
  have inTextAgain := again.1
  simp only [List.length_drop] at sameLength
  exact ⟨sameValue, by omega⟩

theorem Recognizes.scan_eq_cons (recognizes : Recognizes shape begins) {text rest : List Char}
    {value : α} (isThere : begins text value rest) : scan shape text = value :: scan shape rest := by
  obtain ⟨taken, found, rfl, rfl⟩ := (recognizes _ _ _).mpr isThere
  cases text with
  | nil => exact absurd taken.shorter (Nat.not_lt_zero _)
  | cons c text => exact scan_of_some shape found

theorem Recognizes.eq_none (recognizes : Recognizes shape begins) {text : List Char}
    (nothing : ∀ value rest, ¬begins text value rest) : shape text = none := by
  rw [Option.eq_none_iff_forall_ne_some]
  intro taken found
  exact nothing _ _ (recognizes.begins_of_some found)

/-- Of two shapes that never take both, either one may be tried first. -/
theorem takes_or_iff {other : (text : List Char) → Option (Taken α text)} {text rest : List Char}
    {value : α} (exclusive : Takes other text value rest → shape text = none) :
    Takes (fun text => (shape text).or (other text)) text value rest ↔
      Takes shape text value rest ∨ Takes other text value rest := by
  constructor
  · rintro ⟨taken, found, isTaken⟩
    rcases Option.or_eq_some_iff.mp found with first | ⟨_, second⟩
    · exact .inl ⟨taken, first, isTaken⟩
    · exact .inr ⟨taken, second, isTaken⟩
  · rintro (⟨taken, found, isTaken⟩ | second)
    · exact ⟨taken, Option.or_eq_some_iff.mpr (.inl found), isTaken⟩
    · obtain ⟨taken, found, isTaken⟩ := second
      exact ⟨taken, Option.or_eq_some_iff.mpr
        (.inr ⟨exclusive ⟨taken, found, isTaken⟩, found⟩), isTaken⟩

private theorem drop_length_sub {text rest : List Char} (isSuffix : rest <:+ text) :
    text.drop (text.length - rest.length) = rest := by
  obtain ⟨front, rfl⟩ := isSuffix
  simp

/-- What begins in two parts begins with its first part, and has the second one behind it. -/
theorem at_parts_iff {first : Grammar α} {second : List Char → List Char → Prop}
    (leaves : ∀ place value rest, first place value rest → rest <:+ place) {text : List Char}
    {start stop : Nat} {value : α} :
    At text (fun place value rest => ∃ behind, first place value behind ∧ second behind rest) start
        value stop ↔
      ∃ position, At text first start value position ∧
        stop ≤ text.length ∧ second (text.drop position) (text.drop stop) := by
  constructor
  · rintro ⟨inText, behind, isFirst, isSecond⟩
    have isSuffix := (leaves _ _ _ isFirst).trans (List.drop_suffix start text)
    have isBehind := drop_length_sub isSuffix
    exact ⟨text.length - behind.length, ⟨Nat.sub_le _ _, by rwa [isBehind]⟩, inText,
      by rwa [isBehind]⟩
  · rintro ⟨position, ⟨_, isFirst⟩, inText, isSecond⟩
    exact ⟨inText, _, isFirst, isSecond⟩

/-- **A scan is the reading of what its shape recognizes.** The induction is the scan. -/
theorem Recognizes.reading (recognizes : Recognizes shape begins) (leaves : LeavesSuffix shape)
    (text : List Char) (start : Nat) (inText : start ≤ text.length) :
    Reading (At text begins) start (scan shape (text.drop start)) := by
  generalize isPlace : text.drop start = place
  induction place using places.induct shape generalizing start with
  | case1 =>
      rw [scan]
      apply Reading.finished
      intro other behind value stop isThere
      obtain ⟨taken, _⟩ := (recognizes _ _ _).mpr isThere.2
      have shorter := taken.shorter
      have noneLeft := congrArg List.length isPlace
      simp only [List.length_drop, List.length_nil] at shorter noneLeft
      omega
  | case2 c tail found isFound inductionHypothesis =>
      have isSuffix : found.rest <:+ text :=
        (leaves _ found isFound).trans (isPlace ▸ List.drop_suffix start text)
      have isRest := drop_length_sub isSuffix
      have later := inductionHypothesis _ (Nat.sub_le _ _) isRest
      rw [scan_of_some shape isFound]
      refine .found (Nat.le_refl start) ?_ ⟨Nat.sub_le _ _, ?_⟩ later
      · intro earlier fromStart inFront
        omega
      · rw [isPlace, isRest]
        exact recognizes.begins_of_some isFound
  | case3 c tail notFound inductionHypothesis =>
      have isTail : text.drop (start + 1) = tail := by
        rw [← List.tail_drop, isPlace, List.tail_cons]
      have started : start + 1 ≤ text.length := by
        have notEmpty := congrArg List.length isPlace
        simp only [List.length_drop, List.length_cons] at notEmpty
        omega
      rw [scan_of_none shape notFound]
      refine (inductionHypothesis (start + 1) started isTail).of_succ fun value stop isThere => ?_
      have here := isThere.2
      rw [isPlace] at here
      exact recognizes.not_begins notFound _ _ here

end Recognition

/-! ## Steps -/

/-- A run of a class that begins with a character of another class, and reaches as far as it
can. -/
structure IsRun (starts continues : Char → Bool) (run rest : List Char) : Prop where
  begins : ∃ first more, run = first :: more ∧ starts first = true ∧ ∀ c ∈ more, continues c = true
  ends : ∀ c ∈ rest.head?, continues c = false

section Steps

variable {text rest : List Char}

theorem takes_word?_iff {first : Char} {more : List Char} {value : Unit} :
    Takes (word? first more) text value rest ↔ text = first :: more ++ rest := by
  constructor
  · rintro ⟨taken, found, _, rfl⟩
    exact append_rest_of_word? found
  · rintro rfl
    induction more generalizing first with
    | nil =>
        show Takes (word? first []) (first :: rest) value rest
        exact ⟨_, by rw [word?, if_pos rfl], rfl, rfl⟩
    | cons next others inductionHypothesis =>
        obtain ⟨taken, found, _, isRest⟩ := @inductionHypothesis next
        show Takes (word? first (next :: others)) (first :: (next :: others ++ rest)) value rest
        exact ⟨_, by rw [word?, if_pos rfl, found, Option.map_some], rfl, isRest⟩

theorem takes_run?_iff {starts continues : Char → Bool} {run : List Char} :
    Takes (run? starts continues) text run rest ↔
      text = run ++ rest ∧ IsRun starts continues run rest := by
  constructor
  · rintro ⟨taken, found, rfl, rfl⟩
    obtain ⟨split, begins, ends⟩ := exists_of_run? found
    exact ⟨split, begins, ends⟩
  · rintro ⟨rfl, ⟨first, more, rfl, isStart, inside⟩, ends⟩
    show Takes (run? starts continues) (first :: (more ++ rest)) (first :: more) rest
    refine ⟨_, by rw [run?, if_pos isStart], ?_, dropWhile_append_of_ends inside ends⟩
    exact congrArg (first :: ·) (takeWhile_append_of_ends inside ends)

theorem takes_blanks?_iff {value : Unit} :
    Takes blanks? text value rest ↔
      ∃ space, text = space ++ rest ∧ IsRun isBlank isBlank space rest := by
  constructor
  · rintro ⟨taken, found, _, rfl⟩
    obtain ⟨space, split, notEmpty, blank, ends⟩ := exists_of_blanks? found
    obtain ⟨first, more, rfl⟩ := List.exists_cons_of_ne_nil notEmpty
    refine ⟨_, split, ⟨first, more, rfl, blank first List.mem_cons_self, ?_⟩, ends⟩
    exact fun c member => blank c (List.mem_cons_of_mem _ member)
  · rintro ⟨_, rfl, ⟨first, more, rfl, isStart, inside⟩, ends⟩
    show Takes blanks? (first :: (more ++ rest)) value rest
    exact ⟨_, by rw [blanks?, if_pos isStart], rfl, dropWhile_append_of_ends inside ends⟩

/-- A word behind white space, or behind none. -/
theorem takes_word?_skipBlank_iff {first : Char} {more : List Char} (noBlank : isBlank first = false)
    {value : Unit} :
    Takes (word? first more) (skipBlank text) value rest ↔
      ∃ space, (∀ c ∈ space, isBlank c = true) ∧ text = space ++ (first :: more ++ rest) := by
  rw [takes_word?_iff]
  constructor
  · intro skipped
    refine ⟨text.takeWhile isBlank, List.all_eq_true.mp List.all_takeWhile, ?_⟩
    rw [← skipped, skipBlank, List.takeWhile_append_dropWhile]
  · rintro ⟨space, blank, rfl⟩
    exact dropWhile_append_of_ends blank (by simp [noBlank])

theorem takes_charAfterBlank?_iff {expected : Char} (noBlank : isBlank expected = false)
    {value : Unit} :
    Takes (charAfterBlank? expected) text value rest ↔
      ∃ space, (∀ c ∈ space, isBlank c = true) ∧ text = space ++ expected :: rest := by
  have steps : Takes (charAfterBlank? expected) text value rest ↔
      Takes (word? expected []) (skipBlank text) value rest := by
    simp only [Takes, charAfterBlank?, char?, Option.map_eq_some_iff]
    constructor
    · rintro ⟨_, ⟨later, isLater, rfl⟩, same, rfl⟩
      exact ⟨later, isLater, same, rfl⟩
    · rintro ⟨later, isLater, same, rfl⟩
      exact ⟨_, ⟨later, isLater, rfl⟩, same, rfl⟩
  rw [steps, takes_word?_skipBlank_iff noBlank]
  rfl

end Steps

end WebCompat.Text
