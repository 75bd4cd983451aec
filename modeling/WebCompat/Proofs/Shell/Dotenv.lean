import WebCompat.Proofs.Text.Utf8
import WebCompat.Shell.Dotenv

/-!
Files with variables that can always be loaded: where neither the file nor the environment has
a zero byte, no value assigned has a NUL, so that the environment can hold each of them.

Owns: that no step of reading such a file brings in a NUL, from its bytes to its lines and from
the lines to the values.
-/

namespace WebCompat.Dotenv

/-- A text without NUL. -/
def IsHoldable (text : List Char) : Prop :=
  '\x00' ∉ text

/-! ## Lines -/

private theorem flatten_rawLines (content : List UInt8) : (rawLines content).flatten = content := by
  induction content with
  | nil => rfl
  | cons b rest inductionHypothesis =>
      rw [rawLines]
      split
      · rename_i noLine
        rw [noLine] at inductionHypothesis
        rw [← inductionHypothesis]
        rfl
      · rename_i first others hasLine
        rw [hasLine, List.flatten_cons] at inductionHypothesis
        rw [← inductionHypothesis]
        split <;> rfl

/-- Of a line a front is left. -/
theorem walk_isPrefix (place : Place) (line : List Char) : (walk place line).1 <+: line := by
  fun_induction walk place line <;> simp_all [keep]

private theorem withoutBreak_subset (line : List Char) : withoutBreak line ⊆ line := by
  unfold withoutBreak
  split
  case h_1 rest isReversed =>
    rw [← line.reverse_reverse, isReversed]
    simp
  case h_2 rest isReversed =>
    rw [← line.reverse_reverse, isReversed]
    simp
  case h_3 => exact List.Subset.refl line

/-- Lines of bytes without a zero are put together to lines without NUL. -/
theorem isHoldable_of_mem_logicalLines {lines : List (List UInt8)} {before text : List Char}
    {place : Place} (isHoldable : IsHoldable before) (noZero : ∀ line ∈ lines, 0 ∉ line)
    (member : some text ∈ logicalLines before place lines) : IsHoldable text := by
  induction lines generalizing before place with
  | nil =>
      rw [logicalLines] at member
      split at member <;> simp at member
  | cons raw others inductionHypothesis =>
      have noneLater : ∀ line ∈ others, 0 ∉ line := fun line later =>
        noZero line (List.mem_cons_of_mem raw later)
      have isEmptyHoldable : IsHoldable [] := List.not_mem_nil
      rw [logicalLines] at member
      split at member
      · simp at member
      · rename_i line isText
        have isLineHoldable : IsHoldable line.toList :=
          Text.nul_not_mem_of_ofBytes? isText (noZero raw List.mem_cons_self)
        have isFrontHoldable : IsHoldable (before ++ (walk place line.toList).1) := by
          intro isNul
          rcases List.mem_append.mp isNul with earlier | here
          · exact isHoldable earlier
          · exact isLineHoldable ((walk_isPrefix place line.toList).subset here)
        split at member
        · rcases List.mem_cons.mp member with isEmpty | later
          · rw [Option.some.inj isEmpty]
            exact isEmptyHoldable
          · exact inductionHypothesis isEmptyHoldable noneLater later
        · split at member
          all_goals
            rename_i isWalked
            rw [isWalked] at isFrontHoldable
          · rcases List.mem_cons.mp member with isFront | later
            · rw [Option.some.inj isFront]
              exact isFrontHoldable
            · exact inductionHypothesis isEmptyHoldable noneLater later
          · rcases List.mem_cons.mp member with isFront | later
            · rw [Option.some.inj isFront]
              exact fun isNul => isFrontHoldable (withoutBreak_subset _ isNul)
            · exact inductionHypothesis isEmptyHoldable noneLater later
          · exact inductionHypothesis isFrontHoldable noneLater member

/-! ## Values -/

private theorem trimBlank_subset (text : List Char) : Text.trimBlank text ⊆ text := by
  intro c member
  rw [Text.trimBlank, Text.trimWhile, List.mem_reverse] at member
  have inFront := List.mem_reverse.mp ((List.dropWhile_sublist _).subset member)
  exact (List.dropWhile_sublist _).subset inFront

private theorem subset_of_name? {line name rest : List Char}
    (isName : name? line = some (name, rest)) :
    rest ⊆ line := by
  unfold name? at isName
  split at isName
  · split at isName
    · cases isName
      exact (List.dropWhile_sublist _).subset
    · cases isName
  · cases isName

section Values

variable {resolve : List Char → List Char} (isResolved : ∀ name, IsHoldable (resolve name))

include isResolved

/-- A value is made of characters of its line, of line breaks and of values of variables. -/
theorem isHoldable_of_value? {isWeak : Bool} {mode : Mode} {before rest value : List Char}
    (isBefore : IsHoldable before) (isRest : IsHoldable rest)
    (isValue : value? resolve isWeak mode before rest = some value) : IsHoldable value := by
  unfold IsHoldable at *
  fun_induction value? resolve isWeak mode before rest
  all_goals grind

theorem isHoldable_of_assignment {given name value rest : List Char} (isRest : IsHoldable rest)
    (assigns : assignment resolve given rest = .assignment name value) : IsHoldable value := by
  have isSkipped : IsHoldable (Text.skipBlank rest) := fun isNul =>
    isRest ((List.dropWhile_sublist _).subset isNul)
  have isEmptyHoldable : IsHoldable [] := List.not_mem_nil
  unfold assignment at assigns
  split at assigns
  · cases assigns
    exact isEmptyHoldable
  · rename_i c others isOthers
    rw [isOthers] at isSkipped
    split at assigns
    · cases assigns
      exact isEmptyHoldable
    · split at assigns
      · rename_i isValue
        cases assigns
        exact isHoldable_of_value? isResolved isEmptyHoldable isSkipped isValue
      · cases assigns

theorem isHoldable_of_line {text name value : List Char} (isText : IsHoldable text)
    (assigns : line resolve text = .assignment name value) : IsHoldable value := by
  have isTrimmed : IsHoldable (Text.trimBlank text) := fun isNul =>
    isText (trimBlank_subset text isNul)
  have afterName {taken : List Char × List Char} {before : List Char}
      (isBefore : IsHoldable before) (isName : name? before = some taken) :
      IsHoldable (Text.skipBlank taken.2) := fun isNul =>
    isBefore (subset_of_name? isName ((List.dropWhile_sublist _).subset isNul))
  have afterEquals {given rest : List Char} (isRest : IsHoldable ('=' :: rest))
      (assigns : assignment resolve given rest = .assignment name value) : IsHoldable value :=
    isHoldable_of_assignment isResolved
      (fun isNul => isRest (List.mem_cons_of_mem _ isNul)) assigns
  unfold line at assigns
  split at assigns
  · cases assigns
  · cases assigns
  · split at assigns
    · cases assigns
    · rename_i first rest isFirst
      have isRest := afterName isTrimmed isFirst
      split at assigns
      · rename_i isEquals
        rw [isEquals] at isRest
        exact afterEquals isRest assigns
      · split at assigns
        · split at assigns
          · cases assigns
          · rename_i isSecond
            have isLast := afterName isRest isSecond
            split at assigns
            · rename_i isEquals
              rw [isEquals] at isLast
              exact afterEquals isLast assigns
            · cases assigns
        · cases assigns

end Values

/-! ## Files -/

namespace Variables

/-- No variable has a value with NUL. -/
def AreHoldable (known : Variables) : Prop :=
  ∀ name, IsHoldable (known.resolve name)

/-- What an assignment changes: a variable has its old value or the new one. -/
theorem resolve_of_assign {known next : Variables} {name value : List Char}
    (isNext : known.assign name value = some next) (other : List Char) :
    next.resolve other = value ∨ next.resolve other = known.resolve other := by
  have isLookup : ((String.ofList name, value) :: known.assigned).lookup (String.ofList other) =
      if other = name then some value else known.assigned.lookup (String.ofList other) := by
    by_cases isSame : other = name
    · simp [isSame]
    · have differs : (String.ofList other == String.ofList name) = false := by
        simpa [String.ofList_inj] using isSame
      rw [List.lookup_cons, differs, if_neg isSame]
  unfold assign at isNext
  split at isNext
  · rename_i isSet
    obtain ⟨text, isText⟩ := Option.isSome_iff_exists.mp isSet
    cases isNext
    right
    by_cases isSame : other = name
    · simp [resolve, isSame, isText]
    · simp [resolve, isLookup, isSame]
  · split at isNext
    · cases isNext
    · cases isNext
      by_cases isSame : other = name
      · left
        simp [resolve, Settings.textOf, isSame]
      · right
        have differs : String.ofList other ≠ String.ofList name := by
          simpa [String.ofList_inj] using isSame
        simp [resolve, Settings.textOf, isLookup, isSame, differs]

/-- A value without NUL can be assigned, and the values stay without NUL. -/
theorem exists_assign {known : Variables} (areHoldable : known.AreHoldable)
    (name : List Char) {value : List Char} (isHoldable : IsHoldable value) :
    ∃ next, known.assign name value = some next ∧ next.AreHoldable := by
  have canHold : value.contains '\x00' = false := by
    rw [Bool.eq_false_iff, ne_eq, List.contains_iff_mem]
    exact isHoldable
  have isAssigned : ∃ next, known.assign name value = some next := by
    unfold assign
    rw [canHold]
    split
    · exact ⟨_, rfl⟩
    · exact ⟨_, rfl⟩
  obtain ⟨next, isNext⟩ := isAssigned
  refine ⟨next, isNext, fun other => ?_⟩
  rcases resolve_of_assign isNext other with isNew | isOld
  · rw [isNew]
    exact isHoldable
  · rw [isOld]
    exact areHoldable other

private theorem exists_readLines {known : Variables} (areHoldable : known.AreHoldable)
    {lines : List (Option (List Char))} (haveNoNul : ∀ text, some text ∈ lines → IsHoldable text) :
    ∃ last, known.readLines lines = some last := by
  induction lines generalizing known with
  | nil => exact ⟨known, rfl⟩
  | cons first others inductionHypothesis =>
      have later : ∀ text, some text ∈ others → IsHoldable text := fun text member =>
        haveNoNul text (List.mem_cons_of_mem first member)
      cases first with
      | none => exact ⟨known, rfl⟩
      | some text =>
          rw [readLines]
          split
          · exact inductionHypothesis areHoldable later
          · exact ⟨known, rfl⟩
          · rename_i name value assigns
            have isHoldable :=
              isHoldable_of_line areHoldable (haveNoNul text List.mem_cons_self) assigns
            obtain ⟨next, isNext, nextHoldable⟩ := exists_assign areHoldable name isHoldable
            rw [isNext]
            exact inductionHypothesis nextHoldable later

end Variables

private theorem withoutMark_subset (content : List UInt8) : withoutMark content ⊆ content := by
  unfold withoutMark
  split
  · intro b member
    simp [member]
  · exact List.Subset.refl content

/-- **A file without a zero byte can be loaded**, where the environment has none either. -/
theorem exists_load? {environment : Environment} {content : List UInt8}
    (noneInEnvironment : ∀ name value, environment name = some value → 0 ∉ value)
    (noneInFile : 0 ∉ content) : ∃ loaded, load? environment content = some loaded := by
  have areHoldable : (Variables.mk environment []).AreHoldable := by
    intro name
    unfold Variables.resolve
    split
    · rename_i text isText
      obtain ⟨value, isSet, isRead⟩ := Option.bind_eq_some_iff.mp isText
      exact Text.nul_not_mem_of_ofBytes? isRead (noneInEnvironment _ value isSet)
    · exact List.not_mem_nil
  have noneInLines : ∀ line ∈ rawLines (withoutMark content), 0 ∉ line := by
    intro line member isZero
    have inContent : 0 ∈ withoutMark content := by
      rw [← flatten_rawLines (withoutMark content)]
      exact List.mem_flatten.mpr ⟨line, member, isZero⟩
    exact noneInFile (withoutMark_subset content inContent)
  obtain ⟨last, isLast⟩ := Variables.exists_readLines areHoldable fun text member =>
    isHoldable_of_mem_logicalLines List.not_mem_nil noneInLines member
  exact ⟨last.environment, by rw [load?, isLast, Option.map_some]⟩

end WebCompat.Dotenv
