import WebCompat.Proofs.Scan.Markup
import WebCompat.Proofs.Text.Listing
import WebCompat.Proofs.Text.Span
import WebCompat.Scan.Style

/-!
Properties and selectors, place by place. A style sheet is searched for names in front of a colon and
for names in front of a brace, from left to right and behind each match. What is found can be told
without the search: at a colon and at a brace it is decided by the longest run of name characters in
front of it, whatever stands elsewhere.

Owns: names in front of a closing character; that each of them is part of one which reaches back to
the start of its run; and the listings of the properties and the selectors of a text.
-/

namespace WebCompat.Scan

open WebCompat.Text

/-! ## Closed runs -/

/-- A longest run of a class, with a closing character behind it, after white space or directly. -/
structure ClosedRun (inName : Char → Bool) (closing : Char) (text before run space rest : List Char) :
    Prop where
  split : text = before ++ (run ++ (space ++ closing :: rest))
  isWord : IsWord inName before run (space ++ closing :: rest)
  blank : ∀ c ∈ space, isBlank c = true

/-- A property at a position: a longest run of letters and hyphens that starts there, and behind
which the first character that is no white space is a colon. -/
def IsPropertyAt (text : List Char) (start : Nat) (name : String) : Prop :=
  ∃ before space rest, ClosedRun inPropertyName ':' text before name.toList space rest ∧
    start = before.length

/-- What a run in front of a brace selects: it is taken with the mark of a class or of an identifier
in front of it, but if it begins with digits it is taken without them and without a mark. -/
def selectorOf (before run : List Char) : List Char :=
  if run.head?.any Char.isDigit then run.dropWhile Char.isDigit
  else (before.getLast?.filter fun c => c == '.' || c == '#').toList ++ run

/-- A selector in front of a brace at a position: what the longest run selects that ends with the
last character in front of the brace that is no white space. -/
def IsSelectorAt (text : List Char) (brace : Nat) (selector : String) : Prop :=
  ∃ before run space rest, ClosedRun inStyleName '\x7b' text before run space rest ∧
    selector.toList = selectorOf before run ∧ selector ≠ "" ∧
    brace = (before ++ run ++ space).length

/-! ## Runs at the end of a text -/

/-- Of two cuts of a text in front of runs of a class, at places where the class starts, both are the
same. -/
theorem eq_of_append_eq_append_of_starts {continues : Char → Bool} {run other front start : List Char}
    (sameText : front ++ run = start ++ other)
    (inRun : ∀ c ∈ run, continues c = true) (inOther : ∀ c ∈ other, continues c = true)
    (startsRun : ∀ c ∈ front.getLast?, continues c = false)
    (startsOther : ∀ c ∈ start.getLast?, continues c = false) : front = start ∧ run = other := by
  have sameBack := congrArg List.reverse sameText
  rw [List.reverse_append, List.reverse_append] at sameBack
  have inReversed : ∀ c ∈ run.reverse, continues c = true :=
    fun c member => inRun c (List.mem_reverse.mp member)
  have inOtherReversed : ∀ c ∈ other.reverse, continues c = true :=
    fun c member => inOther c (List.mem_reverse.mp member)
  have isOther : run = other := by
    apply List.reverse_inj.mp
    apply eq_of_append_eq_append sameBack inReversed inOtherReversed
    · rwa [List.head?_reverse]
    · rwa [List.head?_reverse]
  rw [isOther] at sameText
  exact ⟨List.append_cancel_right sameText, isOther⟩

/-! ## Names in front of a closing character -/

/-- How names in front of a closing character are written: the characters that they hold, those of
them that a name does not begin with, and the marks that may stand in front of a name. -/
structure Naming where
  isMark : Char → Bool
  skips : Char → Bool
  continues : Char → Bool
  closing : Char
  not_continues_mark : ∀ c, isMark c = true → continues c = false
  not_continues_blank : ∀ c, isBlank c = true → continues c = false
  not_continues_closing : continues closing = false
  not_mark_closing : isMark closing = false
  not_blank_closing : isBlank closing = false

namespace Naming

variable (naming : Naming)

/-- What a name begins with. -/
def starts (c : Char) : Bool :=
  naming.continues c && !naming.skips c

/-- A mark, or nothing. -/
def IsMark (mark : List Char) : Prop :=
  mark = [] ∨ ∃ c, naming.isMark c = true ∧ mark = [c]

/-- A name up to the closing character. -/
def Ends (text name rest : List Char) : Prop :=
  ∃ space, text = name ++ (space ++ naming.closing :: rest) ∧ (∀ c ∈ space, isBlank c = true) ∧
    IsRun naming.starts naming.continues name (space ++ naming.closing :: rest)

/-- A name, perhaps with a mark in front, up to the closing character. -/
def Begins : Grammar String := fun text value rest =>
  ∃ mark name behind, value.toList = mark ++ name ∧ naming.IsMark mark ∧ text = mark ++ behind ∧
    naming.Ends behind name rest

/-- What a longest run in front of the closing character is taken for. -/
def chosen (before run : List Char) : List Char :=
  if run.head?.any naming.skips then run.dropWhile naming.skips
  else (before.getLast?.filter naming.isMark).toList ++ run

/-- The name that is taken from a longest run, and the positions where it starts and stops. -/
def Whole (text : List Char) (start : Nat) (value : String) (stop : Nat) : Prop :=
  ∃ before run space rest, ClosedRun naming.continues naming.closing text before run space rest ∧
    value.toList = naming.chosen before run ∧ value ≠ "" ∧
    start + value.toList.length = (before ++ run).length ∧
    stop = (before ++ run ++ space).length + 1

section Runs

variable {naming} {text before run space rest : List Char}

private theorem not_skips_of_starts {c : Char} (isStart : naming.starts c = true) :
    naming.skips c = false := by
  rw [starts, Bool.and_eq_true, Bool.not_eq_true'] at isStart
  exact isStart.2

private theorem length_pos_of_begins {value : String} (isThere : naming.Begins text value rest) :
    0 < value.toList.length := by
  obtain ⟨mark, name, _, isValue, _, _, _, _, _, isName⟩ := isThere
  obtain ⟨first, more, rfl, _⟩ := isName.begins
  rw [isValue, List.length_append, List.length_cons]
  omega

private theorem not_isMark_of_starts {c : Char} (isStart : naming.starts c = true) :
    naming.isMark c = false := by
  rw [Bool.eq_false_iff]
  intro isMark
  rw [starts, naming.not_continues_mark c isMark] at isStart
  cases isStart

/-- White space and the closing character end a name. -/
theorem ends_run (blank : ∀ c ∈ space, isBlank c = true) :
    ∀ c ∈ (space ++ naming.closing :: rest).head?, naming.continues c = false := by
  intro c isHead
  cases space with
  | nil =>
      cases isHead
      exact naming.not_continues_closing
  | cons first space =>
      cases isHead
      exact naming.not_continues_blank _ (blank _ List.mem_cons_self)

private theorem continues_of_mem {name behind : List Char}
    (isName : IsRun naming.starts naming.continues name behind) :
    ∀ c ∈ name, naming.continues c = true := by
  obtain ⟨first, more, rfl, isStart, inMore⟩ := isName.begins
  intro c member
  rcases List.mem_cons.mp member with rfl | later
  · exact (Bool.and_eq_true_iff.mp isStart).1
  · exact inMore c later

private theorem isRun_of_continues {first : Char} {more behind : List Char}
    (notSkipped : naming.skips first = false)
    (inName : ∀ c ∈ first :: more, naming.continues c = true)
    (ends : ∀ c ∈ behind.head?, naming.continues c = false) :
    IsRun naming.starts naming.continues (first :: more) behind := by
  refine ⟨⟨first, more, rfl, ?_, fun c member => inName c (List.mem_cons_of_mem _ member)⟩, ends⟩
  rw [starts, inName first List.mem_cons_self, notSkipped]
  rfl

/-- What stands in front of the closing character is not the closing character. -/
theorem ne_closing {c : Char}
    (inFront : naming.isMark c = true ∨ naming.continues c = true ∨ isBlank c = true) :
    (c != naming.closing) = true := by
  rw [bne_iff_ne]
  rintro rfl
  rw [naming.not_mark_closing, naming.not_continues_closing, naming.not_blank_closing] at inFront
  simp at inFront

/-- A name is the end of the run that it lies in. -/
theorem closedRun_append {back name : List Char}
    (split : text = (before ++ back) ++ (name ++ (space ++ naming.closing :: rest)))
    (inBack : ∀ c ∈ back, naming.continues c = true)
    (startsThere : ∀ c ∈ before.getLast?, naming.continues c = false)
    (blank : ∀ c ∈ space, isBlank c = true)
    (isName : IsRun naming.starts naming.continues name (space ++ naming.closing :: rest)) :
    ClosedRun naming.continues naming.closing text before (back ++ name) space rest where
  split := by
    rw [split]
    simp only [List.append_assoc]
  isWord := by
    refine ⟨?_, ?_, startsThere, isName.ends⟩
    · obtain ⟨first, more, rfl, _⟩ := isName.begins
      exact List.append_ne_nil_of_right_ne_nil back (List.cons_ne_nil first more)
    · intro c member
      rcases List.mem_append.mp member with inFront | inName
      · exact inBack c inFront
      · exact continues_of_mem isName c inName
  blank := blank

/-- What is taken from a run is the end of it, or all of it behind a mark, and is a name. -/
theorem exists_of_chosen
    (isRun : ClosedRun naming.continues naming.closing text before run space rest)
    (notEmpty : naming.chosen before run ≠ []) :
    ∃ front mark name, before ++ run = front ++ (mark ++ name) ∧
      naming.chosen before run = mark ++ name ∧ naming.IsMark mark ∧
      IsRun naming.starts naming.continues name (space ++ naming.closing :: rest) := by
  have ends : ∀ c ∈ (space ++ naming.closing :: rest).head?, naming.continues c = false :=
    ends_run isRun.blank
  by_cases skipping : run.head?.any naming.skips = true
  · -- The run begins with characters that a name does not begin with.
    have isChosen : naming.chosen before run = run.dropWhile naming.skips := if_pos skipping
    have isSuffix : run.dropWhile naming.skips <:+ run := List.dropWhile_suffix _
    have stops := List.head?_dropWhile_not naming.skips run
    have split := List.takeWhile_append_dropWhile (p := naming.skips) (l := run)
    rw [isChosen] at notEmpty ⊢
    obtain ⟨first, more, isName⟩ := List.exists_cons_of_ne_nil notEmpty
    rw [isName] at isSuffix stops split ⊢
    have notSkipped : naming.skips first = false := by simpa using stops
    refine ⟨before ++ run.takeWhile naming.skips, [], first :: more, ?_, rfl, .inl rfl,
      isRun_of_continues notSkipped ?_ ends⟩
    · rw [List.nil_append, List.append_assoc, split]
    · exact fun c member => isRun.isWord.inClass c (isSuffix.subset member)
  · have isChosen : naming.chosen before run =
        (before.getLast?.filter naming.isMark).toList ++ run := if_neg skipping
    rw [isChosen]
    obtain ⟨first, more, rfl⟩ := List.exists_cons_of_ne_nil isRun.isWord.notEmpty
    have notSkipped : naming.skips first = false := by simpa using skipping
    have isName := isRun_of_continues notSkipped isRun.isWord.inClass ends
    cases isMarked : before.getLast?.filter naming.isMark with
    | none => exact ⟨before, [], first :: more, rfl, rfl, .inl rfl, isName⟩
    | some c =>
        obtain ⟨isLast, isMark⟩ := Option.filter_eq_some_iff.mp isMarked
        obtain ⟨front, rfl⟩ := List.getLast?_eq_some_iff.mp isLast
        refine ⟨front, [c], first :: more, ?_, rfl, .inr ⟨c, isMark, rfl⟩, isName⟩
        rw [List.append_assoc]

/-- A name behind a mark is taken with the mark. -/
theorem chosen_of_isMark {front name behind : List Char} {c : Char} (isMark : naming.isMark c = true)
    (isName : IsRun naming.starts naming.continues name behind) :
    naming.chosen (front ++ [c]) name = [c] ++ name := by
  obtain ⟨first, more, rfl, isStart, _⟩ := isName.begins
  have notSkipped : naming.skips first = false := not_skips_of_starts isStart
  rw [chosen, List.getLast?_concat, Option.filter_some_pos isMark, if_neg (by simp [notSkipped])]
  rfl

/-- A name at the end of a run is part of what is taken from the run. -/
theorem length_le_chosen {back name behind : List Char}
    (isName : IsRun naming.starts naming.continues name behind) :
    name.length ≤ (naming.chosen before (back ++ name)).length := by
  obtain ⟨first, more, rfl, isStart, _⟩ := isName.begins
  have notSkipped : naming.skips first = false := not_skips_of_starts isStart
  have kept : (first :: more).dropWhile naming.skips = first :: more :=
    List.dropWhile_cons_of_neg (by simp [notSkipped])
  have isSuffix : first :: more <:+ naming.chosen before (back ++ first :: more) := by
    unfold chosen
    split
    · rw [List.dropWhile_append, kept]
      split
      · exact List.suffix_refl _
      · exact List.suffix_append _ _
    · rw [← List.append_assoc]
      exact List.suffix_append _ _
  exact isSuffix.length_le

/-- A run does not end with white space. -/
theorem not_blank_of_closedRun
    (isRun : ClosedRun naming.continues naming.closing text before run space rest) :
    ∀ c ∈ (before ++ run).getLast?, isBlank c = false := by
  intro c isLast
  rw [List.getLast?_append, List.getLast?_eq_some_getLast isRun.isWord.notEmpty] at isLast
  cases isLast
  rw [Bool.eq_false_iff]
  intro blank
  have inside := isRun.isWord.inClass _ (List.getLast_mem isRun.isWord.notEmpty)
  rw [naming.not_continues_blank _ blank] at inside
  cases inside

/-- The closing character decides which run is in front of it. -/
theorem run_unique {otherBefore otherRun otherSpace otherRest : List Char}
    (isRun : ClosedRun naming.continues naming.closing text before run space rest)
    (isOther : ClosedRun naming.continues naming.closing text otherBefore otherRun otherSpace
      otherRest)
    (sameStop : (before ++ run ++ space).length = (otherBefore ++ otherRun ++ otherSpace).length) :
    before = otherBefore ∧ run = otherRun := by
  have sameText : (before ++ run ++ space) ++ naming.closing :: rest =
      (otherBefore ++ otherRun ++ otherSpace) ++ naming.closing :: otherRest := by
    simpa using isRun.split.symm.trans isOther.split
  obtain ⟨sameFront, _⟩ := List.append_inj sameText sameStop
  obtain ⟨sameRuns, _⟩ := eq_of_append_eq_append_of_starts sameFront isRun.blank isOther.blank
    (not_blank_of_closedRun isRun) (not_blank_of_closedRun isOther)
  exact eq_of_append_eq_append_of_starts sameRuns isRun.isWord.inClass isOther.isWord.inClass
    isRun.isWord.startsThere isOther.isWord.startsThere

end Runs

/-! ### Wholes -/

section Wholes

variable {naming} {text : List Char} {start stop : Nat} {value : String}

/-- What begins at a position ends with the first closing character behind it. -/
theorem exists_of_begins (isThere : At text naming.Begins start value stop) :
    ∃ inner, text.drop start = inner ++ naming.closing :: text.drop stop ∧
      (∀ c ∈ inner, (c != naming.closing) = true) ∧ start + inner.length + 1 = stop := by
  obtain ⟨inText, mark, name, _, _, isMark, split, space, rfl, blank, isName⟩ := isThere
  have isInner : text.drop start = (mark ++ name ++ space) ++ naming.closing :: text.drop stop := by
    simpa using split
  refine ⟨mark ++ name ++ space, isInner, ?_, ?_⟩
  · intro c member
    apply ne_closing
    rcases List.mem_append.mp member with inFront | inSpace
    · rcases List.mem_append.mp inFront with inMark | inName
      · rcases isMark with rfl | ⟨other, isOther, rfl⟩
        · cases inMark
        · exact .inl (List.mem_singleton.mp inMark ▸ isOther)
      · exact .inr (.inl (continues_of_mem isName c inName))
    · exact .inr (.inr (blank c inSpace))
  · have lengths := congrArg List.length isInner
    rw [List.length_drop, List.length_append, List.length_cons, List.length_drop] at lengths
    omega

theorem stop_eq_of_inside {next back : Nat} {other : String}
    (isThere : At text naming.Begins start value stop)
    (isNext : At text naming.Begins next other back) (behind : start ≤ next) (before : next < stop) :
    stop = back := by
  have inText := isThere.1
  have inTextToo := isNext.1
  obtain ⟨inner, split, outside, isStop⟩ := exists_of_begins isThere
  obtain ⟨others, splitNext, outsideNext, isBack⟩ := exists_of_begins isNext
  have sameText : inner.drop (next - start) ++ naming.closing :: text.drop stop =
      others ++ naming.closing :: text.drop back := by
    have isDrop : next = start + (next - start) := by omega
    rw [← List.drop_append_of_le_length (by omega), ← split, ← splitNext, List.drop_drop, ← isDrop]
  have outsideDrop : ∀ c ∈ inner.drop (next - start), (c != naming.closing) = true :=
    fun c member => outside c (List.mem_of_mem_drop member)
  have same := eq_of_append_eq_append sameText outsideDrop outsideNext (by simp) (by simp)
  have lengths := congrArg List.length same
  rw [List.length_drop] at lengths
  omega

theorem begins_of_whole (isWhole : naming.Whole text start value stop) :
    At text naming.Begins start value stop := by
  obtain ⟨before, run, space, rest, isRun, isValue, notEmpty, isStart, rfl⟩ := isWhole
  have chosen : naming.chosen before run ≠ [] := by
    rw [← isValue]
    exact fun isEmpty => notEmpty (String.toList_eq_nil_iff.mp isEmpty)
  obtain ⟨front, mark, name, split, isChosen, isMark, isName⟩ := exists_of_chosen isRun chosen
  have isFront : start = front.length := by
    rw [split, isValue, isChosen] at isStart
    simp only [List.length_append] at isStart
    omega
  have wholeText : text = front ++ (mark ++ (name ++ (space ++ naming.closing :: rest))) := by
    rw [isRun.split, ← List.append_assoc, split]
    simp only [List.append_assoc]
  have isRest : text.drop ((before ++ run ++ space).length + 1) = rest := by
    have cut : text = (before ++ run ++ space ++ [naming.closing]) ++ rest := by
      rw [isRun.split]
      simp
    have length : (before ++ run ++ space ++ [naming.closing]).length =
        (before ++ run ++ space).length + 1 := by
      rw [List.length_append, List.length_singleton]
    rw [← length, cut, List.drop_left]
  refine ⟨?_, mark, name, _, isValue.trans isChosen, isMark, ?_, space, rfl, isRun.blank, ?_⟩
  · rw [isRun.split]
    simp only [List.length_append, List.length_cons]
    omega
  · rw [isFront, isRest, wholeText, List.drop_left]
  · rwa [isRest]

/-- What is taken from a run is a whole, if there is anything to take. -/
theorem whole_of_closedRun {before run space rest : List Char}
    (isRun : ClosedRun naming.continues naming.closing text before run space rest)
    (notEmpty : naming.chosen before run ≠ []) :
    naming.Whole text ((before ++ run).length - (naming.chosen before run).length)
      (String.ofList (naming.chosen before run)) ((before ++ run ++ space).length + 1) := by
  obtain ⟨front, mark, name, split, isChosen, _⟩ := exists_of_chosen isRun notEmpty
  refine ⟨before, run, space, rest, isRun, String.toList_ofList, ?_, ?_, rfl⟩
  · intro isEmpty
    apply notEmpty
    rw [← String.toList_ofList (l := naming.chosen before run), isEmpty, String.toList_empty]
  · rw [String.toList_ofList, isChosen, split, List.length_append]
    omega

/-- What begins at a position is the end of a run, or all of a run behind its mark. -/
theorem exists_closedRun (isThere : At text naming.Begins start value stop) :
    ∃ before run space rest, ClosedRun naming.continues naming.closing text before run space rest ∧
      value.toList.length ≤ (naming.chosen before run).length ∧
      start + value.toList.length = (before ++ run).length ∧
      stop = (before ++ run ++ space).length + 1 := by
  obtain ⟨inText, mark, name, _, isValue, isMark, split, space, rfl, blank, isName⟩ := isThere
  have wholeText : text = (text.take start ++ mark) ++
      (name ++ (space ++ naming.closing :: text.drop stop)) := by
    rw [List.append_assoc, ← split, List.take_append_drop]
  have ahead : (text.take start).length = start := by
    have lengths := congrArg List.length split
    simp only [List.length_append, List.length_cons, List.length_drop] at lengths
    exact List.length_take_of_le (by omega)
  have isStop : stop = (text.take start ++ mark ++ name ++ space).length + 1 := by
    have lengths := congrArg List.length wholeText
    simp only [List.length_append, List.length_cons, List.length_drop] at lengths ⊢
    omega
  rcases isMark with rfl | ⟨c, isMark, rfl⟩
  · obtain ⟨before, back, isFront, inBack, startsThere⟩ :=
      exists_run_at_end naming.continues (text.take start)
    rw [List.append_nil, isFront] at wholeText isStop
    refine ⟨before, back ++ name, space, _,
      closedRun_append wholeText inBack startsThere blank isName, ?_, ?_, ?_⟩
    · rw [isValue]
      exact length_le_chosen isName
    · rw [isValue, ← List.append_assoc, ← isFront, List.nil_append, List.length_append, ahead]
    · rw [isStop, ← List.append_assoc]
  · -- A run does not reach over a mark.
    have startsThere : ∀ other ∈ (text.take start ++ [c]).getLast?,
        naming.continues other = false := by
      intro other isLast
      rw [List.getLast?_concat] at isLast
      cases isLast
      exact naming.not_continues_mark c isMark
    rw [← List.append_nil (text.take start ++ [c])] at wholeText
    refine ⟨text.take start ++ [c], name, space, _,
      closedRun_append wholeText (by simp) startsThere blank isName, ?_, ?_, isStop⟩
    · rw [isValue, chosen_of_isMark isMark isName]
    · rw [isValue]
      simp only [List.length_append, ahead, Nat.add_assoc]

/-- The run of a name that begins at a position reaches back to that position or further. -/
theorem exists_whole (isThere : At text naming.Begins start value stop) :
    ∃ front other, front ≤ start ∧ naming.Whole text front other stop := by
  obtain ⟨before, run, space, rest, isRun, longEnough, isStart, rfl⟩ := exists_closedRun isThere
  have notEmpty : naming.chosen before run ≠ [] := by
    have isLonger := length_pos_of_begins isThere.2
    apply List.ne_nil_of_length_pos
    omega
  refine ⟨_, _, ?_, whole_of_closedRun isRun notEmpty⟩
  omega

/-- The names of a text are made of wholes. -/
theorem hasWholes {shape : (text : List Char) → Option (Taken String text)}
    (recognizes : Recognizes shape naming.Begins) (text : List Char) :
    HasWholes (At text naming.Begins) (naming.Whole text) where
  forward := by
    intro start value stop isThere
    obtain ⟨inner, _, _, isStop⟩ := exists_of_begins isThere
    omega
  determined := recognizes.at_determined
  sameStop := stop_eq_of_inside
  begins_of_whole := begins_of_whole
  exists_whole := exists_whole
  sameStart := by
    rintro start value stop next other ⟨before, run, space, rest, isRun, isValue, _, isStart, isStop⟩
      ⟨otherBefore, otherRun, otherSpace, otherRest, isOtherRun, isOtherValue, _, isOtherStart,
        isOtherStop⟩
    obtain ⟨rfl, rfl⟩ := run_unique isRun isOtherRun (by omega)
    rw [isValue] at isStart
    rw [isOtherValue] at isOtherStart
    omega

end Wholes

/-! ### Readers -/

section Readers

variable {naming} {text rest : List Char}

private theorem suffix_of_begins {value : String} (isThere : naming.Begins text value rest) :
    rest <:+ text := by
  obtain ⟨mark, name, _, _, _, rfl, space, rfl, _⟩ := isThere
  exact ⟨mark ++ name ++ space ++ [naming.closing], by simp⟩

/-- A reader of a run and of the closing character takes a name. -/
theorem takes_closed_iff {α : Type} {f : List Char → α}
    {shape : (text : List Char) → Option (Taken α text)}
    (isShape : ∀ text, shape text =
      (run? naming.starts naming.continues text).bind fun name =>
        (charAfterBlank? naming.closing name.rest).bind fun closing =>
          some ⟨f name.value, closing.rest, Nat.lt_trans closing.shorter name.shorter⟩)
    {value : α} :
    Takes shape text value rest ↔ ∃ name, f name = value ∧ naming.Ends text name rest := by
  constructor
  · rintro ⟨taken, found, rfl, rfl⟩
    rw [isShape] at found
    obtain ⟨name, isName, found⟩ := Option.bind_eq_some_iff.mp found
    obtain ⟨closing, isClosing, found⟩ := Option.bind_eq_some_iff.mp found
    cases found
    obtain ⟨split, isRun⟩ := takes_run?_iff.mp ⟨name, isName, rfl, rfl⟩
    obtain ⟨space, blank, isSpace⟩ :=
      (takes_charAfterBlank?_iff naming.not_blank_closing).mp ⟨closing, isClosing, rfl, rfl⟩
    rw [isSpace] at split isRun
    exact ⟨name.value, rfl, space, split, blank, isRun⟩
  · rintro ⟨chars, rfl, space, split, blank, isRun⟩
    obtain ⟨name, isName, rfl, isBehind⟩ := takes_run?_iff.mpr ⟨split, isRun⟩
    have takesClosing : Takes (charAfterBlank? naming.closing) name.rest () rest :=
      (takes_charAfterBlank?_iff naming.not_blank_closing).mpr ⟨space, blank, isBehind⟩
    obtain ⟨closing, isClosing, _, rfl⟩ := takesClosing
    exact ⟨_, by rw [isShape, isName, Option.bind_some, isClosing, Option.bind_some], rfl, rfl⟩

end Readers

end Naming

/-! ## Properties -/

private theorem inStyleName_of_inPropertyName {c : Char} (inside : inPropertyName c = true) :
    inStyleName c = true := by
  rcases Bool.or_eq_true_iff.mp inside with isAlpha | isHyphen
  · rw [inStyleName, isAlphanum_of_isAlpha isAlpha]
    rfl
  · rw [inStyleName, isHyphen, Bool.or_true]

private theorem toNat_of_inStyleName {c : Char} (inside : inStyleName c = true) :
    0x2D ≤ c.toNat ∧ c.toNat ≤ 0x7A := by
  simp only [inStyleName, Bool.or_eq_true, beq_iff_eq] at inside
  rcases inside with (isAlphanum | rfl) | rfl
  · have bounds := toNat_of_isAlphanum isAlphanum
    omega
  · decide
  · decide

/-- No white space is part of a style name. -/
theorem inStyleName_of_isBlank {c : Char} (blank : isBlank c = true) : inStyleName c = false := by
  rw [Bool.eq_false_iff]
  intro inside
  have ⟨low, high⟩ := toNat_of_inStyleName inside
  simp only [isBlank, Bool.or_eq_true, Bool.and_eq_true, decide_eq_true_eq, beq_iff_eq] at blank
  omega

/-- How properties are written. -/
def propertyNaming : Naming where
  isMark _ := false
  skips _ := false
  continues := inPropertyName
  closing := ':'
  not_continues_mark := by simp
  not_continues_blank := by
    intro c blank
    have outside := inStyleName_of_isBlank blank
    rw [Bool.eq_false_iff] at outside ⊢
    exact fun inside => outside (inStyleName_of_inPropertyName inside)
  not_continues_closing := by decide
  not_mark_closing := by decide
  not_blank_closing := by decide

theorem starts_propertyNaming : propertyNaming.starts = inPropertyName := by
  funext c
  rw [Naming.starts]
  exact Bool.and_true _

theorem chosen_propertyNaming (before run : List Char) : propertyNaming.chosen before run = run := by
  have notSkipped : run.head?.any propertyNaming.skips = false := by
    cases run <;> rfl
  have notMarked : before.getLast?.filter propertyNaming.isMark = none := by
    cases before.getLast? <;> rfl
  rw [Naming.chosen, notSkipped, notMarked]
  rfl

/-- The scan for properties takes names up to a colon. -/
theorem recognizes_property? : Recognizes property? propertyNaming.Begins := by
  intro text value rest
  have closed : Takes property? text value rest ↔
      ∃ name, String.ofList name = value ∧ propertyNaming.Ends text name rest := by
    apply Naming.takes_closed_iff
    rw [starts_propertyNaming]
    exact fun text => rfl
  rw [closed]
  constructor
  · rintro ⟨name, rfl, ends⟩
    exact ⟨[], name, text, String.toList_ofList, .inl rfl, rfl, ends⟩
  · rintro ⟨mark, name, behind, isValue, isMark, rfl, ends⟩
    rcases isMark with rfl | ⟨c, isMark, _⟩
    · exact ⟨name, by rw [← String.ofList_toList (s := value), isValue, List.nil_append], ends⟩
    · cases isMark

/-- A property is a whole, and stands where it starts. -/
theorem isPropertyAt_iff {text : List Char} {spot : Nat} {name : String} :
    IsPropertyAt text spot name ↔
      ∃ start stop, propertyNaming.Whole text start name stop ∧ start = spot := by
  constructor
  · rintro ⟨before, space, rest, isRun, rfl⟩
    refine ⟨_, _, ⟨before, name.toList, space, rest, isRun, ?_, ?_, ?_, rfl⟩, rfl⟩
    · rw [chosen_propertyNaming]
    · rintro rfl
      exact isRun.isWord.notEmpty rfl
    · rw [List.length_append]
  · rintro ⟨start, stop, ⟨before, run, space, rest, isRun, isValue, _, isStart, _⟩, rfl⟩
    rw [chosen_propertyNaming] at isValue
    subst isValue
    refine ⟨before, space, rest, isRun, ?_⟩
    rw [List.length_append] at isStart
    omega

/-! ## Selectors -/

/-- How selectors are written. -/
def selectorNaming : Naming where
  isMark c := c == '.' || c == '#'
  skips := Char.isDigit
  continues := inStyleName
  closing := '\x7b'
  not_continues_mark := by
    intro c isMark
    simp only [Bool.or_eq_true, beq_iff_eq] at isMark
    rcases isMark with rfl | rfl <;> rfl
  not_continues_blank _ := inStyleName_of_isBlank
  not_continues_closing := by decide
  not_mark_closing := by decide
  not_blank_closing := by decide

private theorem isDigit_of_isAlpha {c : Char} (isAlpha : c.isAlpha = true) : c.isDigit = false := by
  have bounds : 0x41 ≤ c.toNat := by
    rcases Bool.or_eq_true_iff.mp isAlpha with upper | lower
    · exact (of_decide_eq_true upper : 0x41 ≤ c.toNat ∧ c.toNat ≤ 0x5A).1
    · have atLeast : 0x61 ≤ c.toNat := of_decide_eq_true (Bool.and_eq_true_iff.mp lower).1
      omega
  rw [Bool.eq_false_iff]
  intro isDigit
  have atMost : c.toNat ≤ 0x39 := of_decide_eq_true (Bool.and_eq_true_iff.mp isDigit).2
  omega

theorem starts_selectorNaming : selectorNaming.starts = startsStyleName := by
  funext c
  show (inStyleName c && !c.isDigit) = startsStyleName c
  rw [inStyleName, Char.isAlphanum, startsStyleName]
  by_cases isDigit : c.isDigit = true
  · have notAlpha : c.isAlpha = false := by
      rw [Bool.eq_false_iff]
      intro isAlpha
      rw [isDigit_of_isAlpha isAlpha] at isDigit
      cases isDigit
    have notMark : (c == '_') = false ∧ (c == '-') = false := by
      constructor <;> (rw [beq_eq_false_iff_ne]; rintro rfl; cases isDigit)
    simp [isDigit, notAlpha, notMark]
  · simp [isDigit]

theorem recognizes_bareSelector? : Recognizes bareSelector? selectorNaming.Ends := by
  intro text name rest
  have closed : Takes bareSelector? text name rest ↔
      ∃ chars, id chars = name ∧ selectorNaming.Ends text chars rest := by
    apply Naming.takes_closed_iff
    rw [starts_selectorNaming]
    exact fun text => rfl
  rw [closed]
  exact exists_eq_left

section Marks

variable {c : Char} (text : List Char)

/-- A selector behind a mark. -/
theorem selector?_of_isMark (isMark : selectorNaming.isMark c = true) :
    selector? (c :: text) = (bareSelector? text).map fun name =>
      (name.map fun chars => String.ofList (c :: chars)).widen Text.length_le_cons := by
  rw [selector?, if_pos]
  simpa [selectorNaming] using isMark

private theorem selector?_of_not_isMark (notMark : selectorNaming.isMark c = false) :
    selector? (c :: text) = (bareSelector? (c :: text)).map fun name => name.map String.ofList := by
  rw [selector?, if_neg]
  simpa [selectorNaming] using notMark

end Marks

/-- The scan for selectors takes names up to a brace, perhaps with a mark in front. -/
theorem recognizes_selector? : Recognizes selector? selectorNaming.Begins := by
  intro text value rest
  constructor
  · rintro ⟨taken, found, rfl, rfl⟩
    cases text with
    | nil => cases found
    | cons c text =>
        cases isMark : selectorNaming.isMark c with
        | true =>
            rw [selector?_of_isMark text isMark] at found
            obtain ⟨inner, isInner, rfl⟩ := Option.map_eq_some_iff.mp found
            have ends := recognizes_bareSelector?.begins_of_some isInner
            exact ⟨[c], inner.value, text, String.toList_ofList, .inr ⟨c, isMark, rfl⟩, rfl, ends⟩
        | false =>
            rw [selector?_of_not_isMark text isMark] at found
            obtain ⟨inner, isInner, rfl⟩ := Option.map_eq_some_iff.mp found
            have ends := recognizes_bareSelector?.begins_of_some isInner
            exact ⟨[], inner.value, c :: text, String.toList_ofList, .inl rfl, rfl, ends⟩
  · rintro ⟨mark, name, behind, isValue, isMark, rfl, ends⟩
    rw [← String.ofList_toList (s := value), isValue]
    obtain ⟨inner, isInner, rfl, rfl⟩ := (recognizes_bareSelector? _ _ _).mpr ends
    rcases isMark with rfl | ⟨c, isMark, rfl⟩
    · cases behind with
      | nil => exact absurd inner.shorter (Nat.not_lt_zero _)
      | cons c behind =>
          -- A name does not begin with a mark.
          obtain ⟨space, split, _, isName⟩ := ends
          obtain ⟨first, more, isFirst, isStart, _⟩ := isName.begins
          rw [isFirst] at split
          have notMark := Naming.not_isMark_of_starts isStart
          rw [← (List.cons_eq_cons.mp split).1] at notMark
          have found := selector?_of_not_isMark behind notMark
          rw [isInner] at found
          exact ⟨_, found, rfl, rfl⟩
    · have found := selector?_of_isMark behind isMark
      rw [isInner] at found
      exact ⟨_, found, rfl, rfl⟩

/-- A selector is a whole, and stands in front of the brace with which the whole stops. -/
theorem isSelectorAt_iff {text : List Char} {brace : Nat} {selector : String} :
    IsSelectorAt text brace selector ↔
      ∃ start stop, selectorNaming.Whole text start selector stop ∧ stop - 1 = brace := by
  constructor
  · rintro ⟨before, run, space, rest, isRun, isValue, notEmpty, rfl⟩
    have chosen : selectorNaming.chosen before run ≠ [] := by
      rw [← show _ = selectorNaming.chosen before run from isValue]
      exact fun isEmpty => notEmpty (String.toList_eq_nil_iff.mp isEmpty)
    have isWhole := Naming.whole_of_closedRun isRun chosen
    rw [show selectorNaming.chosen before run = selector.toList from isValue.symm,
      String.ofList_toList] at isWhole
    exact ⟨_, _, isWhole, Nat.add_sub_cancel _ 1⟩
  · rintro ⟨start, stop, ⟨before, run, space, rest, isRun, isValue, notEmpty, _, rfl⟩, rfl⟩
    exact ⟨before, run, space, rest, isRun, isValue, notEmpty, rfl⟩

/-! ## Listings -/

/-- What begins by a naming is ASCII, if its marks and its name characters are. -/
theorem Naming.isAscii_of_begins {naming : Naming}
    (areAscii : ∀ c, (naming.isMark c || naming.continues c) = true → c.toNat < 0x80)
    {text rest : List Char} {value : String} (isThere : naming.Begins text value rest) :
    ∀ c ∈ value.toList, c.toNat < 0x80 := by
  obtain ⟨mark, name, _, isValue, isMark, _, _, _, _, isName⟩ := isThere
  rw [isValue]
  intro c member
  apply areAscii
  rcases List.mem_append.mp member with inMark | inName
  · rcases isMark with rfl | ⟨other, isMark, rfl⟩
    · cases inMark
    · rw [List.mem_singleton.mp inMark, isMark, Bool.true_or]
  · rw [continues_of_mem isName c inName, Bool.or_true]

/-- The listing of what stands in a text by a naming. -/
theorem Naming.exists_lists {naming : Naming} {shape : (text : List Char) → Option (Taken String text)}
    (recognizes : Recognizes shape naming.Begins)
    (areAscii : ∀ c, (naming.isMark c || naming.continues c) = true → c.toNat < 0x80)
    {kind : TokenKind} (noCase : kind.isCaseInsensitive = true)
    {text : List Char} {position : Nat → Nat → Nat}
    (inside : ∀ {start stop}, start < stop →
      start ≤ position start stop ∧ position start stop < stop)
    {stands : Nat → String → Prop}
    (same : ∀ spot value, stands spot value ↔
      ∃ start stop, naming.Whole text start value stop ∧ position start stop = spot) :
    ∃ spots, Lists stands spots ∧ (TokenSet.ofList kind (scan shape text)).items =
      (spots.map fun spot => lowered spot.2).eraseDups := by
  have leaves := recognizes.leavesSuffix fun _ _ _ => suffix_of_begins
  have reading := recognizes.reading leaves text 0 (Nat.zero_le _)
  rw [List.drop_zero] at reading
  obtain ⟨spots, lists, areValues⟩ := (hasWholes recognizes text).exists_lists reading inside same
  have isAscii := reading.forall_mem fun _ _ _ isThere => isAscii_of_begins areAscii isThere.2
  refine ⟨spots, lists, ?_⟩
  rw [items_ofList_of_ascii noCase isAscii, areValues, List.map_map]
  rfl

/-- **The style elements of a text are told place by place.** The properties are the names that
stand in front of a colon, the selectors are those in front of a brace, all of them and nothing else,
in their order, lower-cased, each where it occurs first. -/
theorem styleElements_lists_closed_runs (text : String) :
    (∃ spots, Lists (IsPropertyAt text.toList) spots ∧
      (styleElements text).properties.items =
        (spots.map fun spot => lowered spot.2).eraseDups) ∧
    ∃ spots, Lists (IsSelectorAt text.toList) spots ∧
      (styleElements text).selectors.items =
        (spots.map fun spot => lowered spot.2).eraseDups := by
  have nameIsAscii : ∀ c, inStyleName c = true → c.toNat < 0x80 := by
    intro c inside
    have bounds := toNat_of_inStyleName inside
    omega
  constructor
  · apply Naming.exists_lists recognizes_property? ?_ rfl ?_ fun _ _ => isPropertyAt_iff
    · exact fun c inside => nameIsAscii c (inStyleName_of_inPropertyName inside)
    · omega
  · apply Naming.exists_lists recognizes_selector? ?_ rfl ?_ fun _ _ => isSelectorAt_iff
    · intro c inside
      rcases Bool.or_eq_true_iff.mp inside with isMark | inName
      · simp only [selectorNaming, Bool.or_eq_true, beq_iff_eq] at isMark
        rcases isMark with rfl | rfl <;> decide
      · exact nameIsAscii c inName
    · omega

end WebCompat.Scan
