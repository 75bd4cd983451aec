import WebCompat.Proofs.Scan.Script
import WebCompat.Proofs.Text.Pattern

/-!
The names that a script binds. Three shapes bind a function and one binds a variable. Each of them
is said here three times: as a grammar, by the shape that reads it, and as a pattern that is matched
by trying. All three agree, so that a scan finds what the grammar says and the order in which a
pattern tries its alternatives does not matter.

Owns: the grammars of bindings, what takes them, and that no two of those that bind a function begin
at the same place.
-/

namespace WebCompat.Scan

open WebCompat.Text WebCompat.Text.Pattern

/-! ## Grammars -/

/-- White space, or nothing. -/
def AreBlank (space : List Char) : Prop :=
  ∀ c ∈ space, isBlank c = true

/-- A name that reaches as far as it can. -/
def Names : Grammar String := fun text name rest =>
  text = name.toList ++ rest ∧ IsName name.toList rest

/-- A word, white space and a name. -/
def Introduces (word : List Char) : Grammar String := fun text name rest =>
  ∃ space behind, text = word ++ (space ++ behind) ∧ IsSpace space ∧ Names behind name rest

/-- `function`, white space and a name. -/
def Declares : Grammar String :=
  Introduces "function".toList

/-- An equals sign and `function`, behind white space or behind none. -/
def TakesFunction (text rest : List Char) : Prop :=
  ∃ space blanks, text = space ++ '=' :: (blanks ++ ("function".toList ++ rest)) ∧
    AreBlank space ∧ AreBlank blanks

/-- A name, an equals sign and `function`. -/
def Assigns : Grammar String := fun text name rest =>
  ∃ behind, Names text name behind ∧ TakesFunction behind rest

/-- Parameters, the closing parenthesis and an arrow. -/
def EndsInArrow (text rest : List Char) : Prop :=
  ∃ parameters blanks, text = parameters ++ ')' :: (blanks ++ ("=>".toList ++ rest)) ∧
    ')' ∉ parameters ∧ AreBlank blanks

/-- An equals sign, an opening parenthesis, parameters and an arrow. -/
def TakesArrow (text rest : List Char) : Prop :=
  ∃ space blanks behind, text = space ++ '=' :: (blanks ++ '(' :: behind) ∧ AreBlank space ∧
    AreBlank blanks ∧ EndsInArrow behind rest

/-- `const`, white space, a name, an equals sign, parameters and an arrow. -/
def BindsArrow : Grammar String := fun text name rest =>
  ∃ behind, Introduces "const".toList text name behind ∧ TakesArrow behind rest

/-- The three shapes that bind a function. -/
def functionShapes : List (Grammar String) :=
  [Declares, Assigns, BindsArrow]

/-- What binds a function. -/
def BindsFunction : Grammar String := fun text name rest =>
  ∃ shape ∈ functionShapes, shape text name rest

/-- `var`, `let` or `const`, white space and a name. -/
def BindsVariable : Grammar String := fun text name rest =>
  ∃ binder ∈ binders, Introduces binder text name rest

/-! ## Classes of characters -/

theorem isName_iff_isRun {name rest : List Char} :
    IsName name rest ↔ IsRun startsIdentifier inIdentifier name rest := by
  constructor
  · rintro ⟨⟨first, more, rfl, starts⟩, inClass, endsThere⟩
    exact ⟨⟨first, more, rfl, starts, fun c member => inClass c (List.mem_cons_of_mem _ member)⟩,
      endsThere⟩
  · rintro ⟨⟨first, more, rfl, starts, inMore⟩, ends⟩
    refine ⟨⟨first, more, rfl, starts⟩, ?_, ends⟩
    intro c member
    rcases List.mem_cons.mp member with rfl | later
    · exact inIdentifier_of_starts starts
    · exact inMore c later

theorem IsName.isBlank_head? {name rest back : List Char} (isName : IsName name rest) :
    ∀ c ∈ (name ++ back).head?, isBlank c = false := by
  obtain ⟨first, more, rfl, starts⟩ := isName.starts
  intro c isHead
  cases isHead
  rw [Bool.eq_false_iff]
  intro blank
  have inside := inIdentifier_of_starts starts
  rw [inIdentifier_of_isBlank blank] at inside
  cases inside

theorem isSpace_iff_isRun {space rest : List Char}
    (ends : ∀ c ∈ rest.head?, isBlank c = false) :
    IsSpace space ↔ IsRun isBlank isBlank space rest := by
  constructor
  · rintro ⟨notEmpty, blank⟩
    obtain ⟨first, more, rfl⟩ := List.exists_cons_of_ne_nil notEmpty
    exact ⟨⟨first, more, rfl, blank first List.mem_cons_self,
      fun c member => blank c (List.mem_cons_of_mem _ member)⟩, ends⟩
  · rintro ⟨⟨first, more, rfl, isFirst, inMore⟩, _⟩
    refine ⟨List.cons_ne_nil _ _, ?_⟩
    intro c member
    rcases List.mem_cons.mp member with rfl | later
    · exact isFirst
    · exact inMore c later

/-! ## What the shapes take -/

section Readers

variable {text rest : List Char} {name : String}

theorem takes_identifier?_iff :
    (∃ word, Takes identifier? text word rest ∧ String.ofList word = name) ↔
      Names text name rest := by
  have same : ∀ word, Takes identifier? text word rest ↔ text = word ++ rest ∧ IsName word rest :=
    fun word => by
      rw [isName_iff_isRun]
      exact takes_run?_iff
  simp only [same]
  constructor
  · rintro ⟨word, isWord, rfl⟩
    rwa [Names, String.toList_ofList]
  · intro names
    exact ⟨name.toList, names, String.ofList_toList⟩

/-- The white space in front of a name ends where the name begins. -/
theorem takes_space_and_name_iff :
    (∃ named, Takes blanks? text () named ∧
        ∃ word, Takes identifier? named word rest ∧ String.ofList word = name) ↔
      ∃ space behind, text = space ++ behind ∧ IsSpace space ∧ Names behind name rest := by
  simp only [takes_blanks?_iff, takes_identifier?_iff]
  constructor
  · rintro ⟨named, ⟨space, split, isRun⟩, names⟩
    exact ⟨space, named, split, (isSpace_iff_isRun isRun.ends).mpr isRun, names⟩
  · rintro ⟨space, behind, split, isSpace, names⟩
    refine ⟨behind, ⟨space, split, (isSpace_iff_isRun ?_).mp isSpace⟩, names⟩
    rw [names.1]
    exact names.2.isBlank_head?

private theorem length_rest_lt {text : List Char} (keyword : Taken Unit text)
    (space : Taken Unit keyword.rest) (name : Taken (List Char) space.rest) :
    name.rest.length < text.length := by
  have behindKeyword := keyword.shorter
  have behindSpace := space.shorter
  have behindName := name.shorter
  omega

/-- Takes a keyword, white space and the name that follows. -/
def introduced? (keyword? : (text : List Char) → Option (Taken Unit text)) (text : List Char) :
    Option (Taken String text) := do
  let keyword ← keyword? text
  let space ← blanks? keyword.rest
  let name ← identifier? space.rest
  some ⟨String.ofList name.value, name.rest, length_rest_lt keyword space name⟩

private theorem declaredFunction?_eq :
    declaredFunction? = introduced? (word? 'f' "unction".toList) :=
  rfl

private theorem variableName?_eq : variableName? = introduced? binder? :=
  rfl

theorem takes_introduced?_iff {keyword? : (text : List Char) → Option (Taken Unit text)} :
    Takes (introduced? keyword?) text name rest ↔
      ∃ behind, Takes keyword? text () behind ∧
        ∃ space named, behind = space ++ named ∧ IsSpace space ∧ Names named name rest := by
  simp only [← takes_space_and_name_iff]
  simp only [Takes, introduced?, Option.bind_eq_bind, Option.bind_eq_some_iff]
  constructor
  · rintro ⟨_, ⟨keyword, isKeyword, blanks, areBlanks, word, isWord, made⟩, rfl, rfl⟩
    cases made
    exact ⟨_, ⟨keyword, isKeyword, trivial, rfl⟩, _, ⟨blanks, areBlanks, trivial, rfl⟩, _,
      ⟨word, isWord, rfl, rfl⟩, rfl⟩
  · rintro ⟨_, ⟨keyword, isKeyword, _, rfl⟩, _, ⟨blanks, areBlanks, _, rfl⟩, _,
      ⟨word, isWord, rfl, rfl⟩, rfl⟩
    exact ⟨_, ⟨keyword, isKeyword, blanks, areBlanks, word, isWord, rfl⟩, rfl, rfl⟩

theorem recognizes_declaredFunction? : Recognizes declaredFunction? Declares := by
  intro text name rest
  rw [declaredFunction?_eq, takes_introduced?_iff]
  simp only [takes_word?_iff]
  constructor
  · rintro ⟨_, rfl, space, named, rfl, names⟩
    exact ⟨space, named, rfl, names⟩
  · rintro ⟨space, named, rfl, names⟩
    exact ⟨_, rfl, space, named, rfl, names⟩

theorem takes_function_iff :
    (∃ assigned, Takes (charAfterBlank? '=') text () assigned ∧
        Takes (word? 'f' "unction".toList) (skipBlank assigned) () rest) ↔
      TakesFunction text rest := by
  simp only [takes_charAfterBlank?_iff (show isBlank '=' = false by decide),
    takes_word?_skipBlank_iff (show isBlank 'f' = false by decide)]
  constructor
  · rintro ⟨_, ⟨space, isBlankSpace, rfl⟩, blanks, areBlank, rfl⟩
    exact ⟨space, blanks, rfl, isBlankSpace, areBlank⟩
  · rintro ⟨space, blanks, rfl, isBlankSpace, areBlank⟩
    exact ⟨_, ⟨space, isBlankSpace, rfl⟩, blanks, areBlank, rfl⟩

theorem recognizes_assignedFunction? : Recognizes assignedFunction? Assigns := by
  intro text name rest
  have steps : Takes assignedFunction? text name rest ↔
      ∃ behind, (∃ word, Takes identifier? text word behind ∧ String.ofList word = name) ∧
        ∃ assigned, Takes (charAfterBlank? '=') behind () assigned ∧
          Takes (word? 'f' "unction".toList) (skipBlank assigned) () rest := by
    simp only [Takes, assignedFunction?, Option.bind_eq_bind, Option.bind_eq_some_iff]
    constructor
    · rintro ⟨_, ⟨word, isWord, equals, isEquals, keyword, isKeyword, made⟩, rfl, rfl⟩
      cases made
      exact ⟨_, ⟨_, ⟨word, isWord, rfl, rfl⟩, rfl⟩, _, ⟨equals, isEquals, trivial, rfl⟩,
        keyword, isKeyword, trivial, rfl⟩
    · rintro ⟨_, ⟨_, ⟨word, isWord, rfl, rfl⟩, rfl⟩, _, ⟨equals, isEquals, _, rfl⟩,
        keyword, isKeyword, _, rfl⟩
      exact ⟨_, ⟨word, isWord, equals, isEquals, keyword, isKeyword, rfl⟩, rfl, rfl⟩
  rw [steps]
  simp only [takes_function_iff, takes_identifier?_iff]
  rfl

/-- Parameters end at the first closing parenthesis. -/
theorem takes_arrowAfterParameters?_iff {value : Unit} :
    Takes arrowAfterParameters? text value rest ↔ EndsInArrow text rest := by
  have steps : Takes arrowAfterParameters? text value rest ↔
      ∃ closed, Takes (word? ')' []) (text.dropWhile (· != ')')) () closed ∧
        Takes (word? '=' ['>']) (skipBlank closed) () rest := by
    simp only [Takes, arrowAfterParameters?, char?, Option.bind_eq_bind, Option.bind_eq_some_iff]
    constructor
    · rintro ⟨_, ⟨close, isClose, arrow, isArrow, made⟩, _, rfl⟩
      cases made
      exact ⟨_, ⟨close, isClose, trivial, rfl⟩, arrow, isArrow, trivial, rfl⟩
    · rintro ⟨_, ⟨close, isClose, _, rfl⟩, arrow, isArrow, _, rfl⟩
      exact ⟨_, ⟨close, isClose, arrow, isArrow, rfl⟩, trivial, rfl⟩
  rw [steps]
  simp only [takes_word?_iff, takes_word?_skipBlank_iff (show isBlank '=' = false by decide)]
  constructor
  · rintro ⟨_, closes, blanks, areBlank, rfl⟩
    refine ⟨text.takeWhile (· != ')'), blanks, ?_, ?_, areBlank⟩
    · exact List.takeWhile_append_dropWhile.symm.trans (congrArg _ closes)
    · intro isInside
      have differs := List.all_eq_true.mp List.all_takeWhile _ isInside
      simp at differs
  · rintro ⟨parameters, blanks, rfl, notInside, areBlank⟩
    refine ⟨_, dropWhile_append_of_ends ?_ (by simp), blanks, areBlank, rfl⟩
    intro c member
    simp only [bne_iff_ne]
    rintro rfl
    exact notInside member

theorem takes_arrow_iff :
    (∃ assigned, Takes (charAfterBlank? '=') text () assigned ∧
        ∃ opened, Takes (charAfterBlank? '(') assigned () opened ∧
          Takes arrowAfterParameters? opened () rest) ↔
      TakesArrow text rest := by
  simp only [takes_charAfterBlank?_iff (show isBlank '=' = false by decide),
    takes_charAfterBlank?_iff (show isBlank '(' = false by decide), takes_arrowAfterParameters?_iff]
  constructor
  · rintro ⟨_, ⟨space, isBlankSpace, rfl⟩, behind, ⟨blanks, areBlank, rfl⟩, isArrow⟩
    exact ⟨space, blanks, behind, rfl, isBlankSpace, areBlank, isArrow⟩
  · rintro ⟨space, blanks, behind, rfl, isBlankSpace, areBlank, isArrow⟩
    exact ⟨_, ⟨space, isBlankSpace, rfl⟩, behind, ⟨blanks, areBlank, rfl⟩, isArrow⟩

theorem recognizes_constArrow? : Recognizes constArrow? BindsArrow := by
  intro text name rest
  have steps : Takes constArrow? text name rest ↔
      ∃ behind, Takes (introduced? (word? 'c' "onst".toList)) text name behind ∧
        ∃ assigned, Takes (charAfterBlank? '=') behind () assigned ∧
          ∃ opened, Takes (charAfterBlank? '(') assigned () opened ∧
            Takes arrowAfterParameters? opened () rest := by
    simp only [Takes, constArrow?, introduced?, Option.bind_eq_bind, Option.bind_eq_some_iff]
    constructor
    · rintro ⟨_, ⟨keyword, isKeyword, blanks, areBlanks, word, isWord, equals, isEquals, parenthesis,
        isParenthesis, arrow, isArrow, made⟩, rfl, rfl⟩
      cases made
      exact ⟨_, ⟨_, ⟨keyword, isKeyword, blanks, areBlanks, word, isWord, rfl⟩, rfl, rfl⟩, _,
        ⟨equals, isEquals, trivial, rfl⟩, _, ⟨parenthesis, isParenthesis, trivial, rfl⟩, arrow,
        isArrow, trivial, rfl⟩
    · rintro ⟨_, ⟨_, ⟨keyword, isKeyword, blanks, areBlanks, word, isWord, made⟩, rfl, rfl⟩, _,
        ⟨equals, isEquals, _, rfl⟩, _, ⟨parenthesis, isParenthesis, _, rfl⟩, arrow, isArrow, _, rfl⟩
      cases made
      exact ⟨_, ⟨keyword, isKeyword, blanks, areBlanks, word, isWord, equals, isEquals, parenthesis,
        isParenthesis, arrow, isArrow, rfl⟩, rfl, rfl⟩
  rw [steps]
  simp only [takes_arrow_iff, takes_introduced?_iff, takes_word?_iff]
  constructor
  · rintro ⟨behind, ⟨_, rfl, space, named, rfl, names⟩, isArrow⟩
    exact ⟨behind, ⟨space, named, rfl, names⟩, isArrow⟩
  · rintro ⟨behind, ⟨space, named, rfl, names⟩, isArrow⟩
    exact ⟨behind, ⟨_, rfl, space, named, rfl, names⟩, isArrow⟩

theorem takes_binder?_iff {value : Unit} :
    Takes binder? text value rest ↔ ∃ binder ∈ binders, text = binder ++ rest := by
  have other : ∀ {first c more others}, c ≠ first → Takes (word? c others) text value rest →
      word? first more text = none := by
    intro first c more others differs isWord
    refine word?_eq_none ?_ differs
    rw [takes_word?_iff.mp isWord]
    rfl
  show Takes (fun text => (word? 'v' "ar".toList text).or _) text value rest ↔ _
  rw [takes_or_iff, takes_or_iff (other (by decide))]
  · simp only [takes_word?_iff, binders]
    simp
  · rw [takes_or_iff (other (by decide))]
    rintro (isLet | isConst)
    · exact other (by decide) isLet
    · exact other (by decide) isConst

/-- The scan for variables takes what binds a variable. -/
theorem recognizes_variableName? : Recognizes variableName? BindsVariable := by
  intro text name rest
  rw [variableName?_eq, takes_introduced?_iff]
  simp only [takes_binder?_iff]
  constructor
  · rintro ⟨_, ⟨binder, isBinder, rfl⟩, space, named, rfl, names⟩
    exact ⟨binder, isBinder, space, named, rfl, names⟩
  · rintro ⟨binder, isBinder, space, named, rfl, names⟩
    exact ⟨_, ⟨binder, isBinder, rfl⟩, space, named, rfl, names⟩

/-! ### Functions -/

/-- A word with a name behind it is not assigned anything: no equals sign follows. -/
theorem not_assigns_of_introduces {word : List Char} (inWord : ∀ c ∈ word, inIdentifier c = true)
    (introduces : Introduces word text name rest) (other : String) (back : List Char) :
    ¬Assigns text other back := by
  rintro ⟨behind, ⟨split, isOther⟩, blanks, others, rfl, areBlank, _⟩
  obtain ⟨space, named, rfl, isSpace, isNamed, isName⟩ := introduces
  have isWord : other.toList = word :=
    eq_of_append_eq_append split.symm isOther.inClass inWord isOther.endsThere
      (isSpace.ends_identifier _)
  rw [isWord] at split
  have sameBehind := congrArg (List.dropWhile isBlank) (List.append_cancel_left split)
  rw [dropWhile_append_of_ends isSpace.blank (isNamed ▸ isName.isBlank_head?),
    dropWhile_append_of_ends areBlank (by simp; decide), isNamed] at sameBehind
  obtain ⟨first, more, isFirst, starts⟩ := isName.starts
  rw [isFirst, List.cons_append] at sameBehind
  rw [(List.cons.inj sameBehind).1] at starts
  cases starts

private theorem inIdentifier_of_mem_function : ∀ c ∈ "function".toList, inIdentifier c = true :=
  List.all_eq_true.mp (by decide)

private theorem head?_of_introduces {c : Char} {word : List Char}
    (introduces : Introduces (c :: word) text name rest) : text.head? = some c := by
  obtain ⟨_, _, rfl, _⟩ := introduces
  rfl

/-- **No two shapes of a function begin at one place.** -/
theorem pairwise_functionShapes (text : List Char) :
    functionShapes.Pairwise fun shape other =>
      ∀ name rest another back, shape text name rest → ¬other text another back := by
  refine List.Pairwise.cons ?_ (List.Pairwise.cons ?_ (List.pairwise_singleton _ _))
  · intro other isOther name rest another back declares
    rcases List.mem_cons.mp isOther with rfl | later
    · exact not_assigns_of_introduces inIdentifier_of_mem_function declares another back
    · rcases List.mem_singleton.mp later with rfl
      rintro ⟨_, introduces, _⟩
      have isHead := (head?_of_introduces declares).symm.trans (head?_of_introduces introduces)
      cases isHead
  · intro other isOther name rest another back assigns
    rcases List.mem_singleton.mp isOther with rfl
    rintro ⟨_, introduces, _⟩
    exact not_assigns_of_introduces inIdentifier_of_mem_const introduces name rest assigns

/-- The scan for functions takes what binds a function, in the first of the three shapes that fits.
-/
theorem recognizes_functionName? : Recognizes functionName? BindsFunction := by
  intro text name rest
  have exclusive := pairwise_functionShapes text
  simp only [functionShapes, List.pairwise_cons, List.mem_cons, List.not_mem_nil, or_false,
    forall_eq_or_imp, forall_eq] at exclusive
  obtain ⟨⟨notAssigned, notArrow⟩, assignedNotArrow, _⟩ := exclusive
  show Takes (fun text => (declaredFunction? text).or _) text name rest ↔ _
  have later : Takes (fun text => (assignedFunction? text).or (constArrow? text)) text name rest ↔
      Assigns text name rest ∨ BindsArrow text name rest := by
    rw [takes_or_iff, recognizes_assignedFunction?, recognizes_constArrow?]
    intro isArrow
    apply recognizes_assignedFunction?.eq_none
    intro other back assigns
    exact assignedNotArrow _ _ _ _ assigns ((recognizes_constArrow? _ _ _).mp isArrow)
  rw [takes_or_iff, later, recognizes_declaredFunction?]
  · simp [BindsFunction, functionShapes]
  · intro isLater
    apply recognizes_declaredFunction?.eq_none
    intro other back declares
    rcases later.mp isLater with assigns | isArrow
    · exact notAssigned _ _ _ _ declares assigns
    · exact notArrow _ _ _ _ declares isArrow

end Readers

/-! ## Patterns -/

/-- One or more characters of white space. -/
def someSpace : Pattern :=
  run isBlank isBlank

/-- White space, or nothing. -/
def anySpace : Pattern :=
  many isBlank

/-- A name, which is captured. -/
def namePattern : Pattern :=
  captured (run startsIdentifier inIdentifier)

/-- `WORD\s+(NAME)`. -/
def introduction (word : List Char) : Pattern :=
  inOrder [literal word, someSpace, namePattern]

/-- `\s*=\s*function`. -/
def assignedFunction : Pattern :=
  inOrder [anySpace, literal ['='], anySpace, literal "function".toList]

/-- `(NAME)\s*=\s*function`. -/
def assignment : Pattern :=
  sequence namePattern assignedFunction

/-- `\s*=\s*\([^)]*\)\s*=>`. -/
def assignedArrow : Pattern :=
  inOrder [anySpace, literal ['='], anySpace, literal ['('], many (· != ')'), literal [')'],
    anySpace, literal "=>".toList]

/-- `const\s+(NAME)\s*=\s*\([^)]*\)\s*=>`. -/
def arrowBinding : Pattern :=
  inOrder [literal "const".toList, someSpace, sequence namePattern assignedArrow]

/-- The patterns of what binds a function. -/
def functionPatterns : List Pattern :=
  [introduction "function".toList, assignment, arrowBinding]

/-- `(?:WORD|WORD|...)\s+(NAME)`. -/
def anyIntroduction (words : List (List Char)) : Pattern :=
  inOrder [anyOf (words.map literal), someSpace, namePattern]

section Patterns

variable {text : List Char} {start stop : Nat} {captures : List String}

private theorem apart_blank_startsIdentifier : Apart isBlank startsIdentifier := by
  intro c blank
  rw [Bool.eq_false_iff]
  intro starts
  have inside := inIdentifier_of_starts starts
  rw [inIdentifier_of_isBlank blank] at inside
  cases inside

private theorem apart_inIdentifier_blank : Apart inIdentifier isBlank := by
  intro c inside
  rw [Bool.eq_false_iff]
  intro blank
  rw [inIdentifier_of_isBlank blank] at inside
  cases inside

/-- Where white space and a name stand in a text. -/
theorem at_introduces_iff {word : List Char} {name : String} :
    At text (Introduces word) start name stop ↔
      ∃ spaced, Spells text start word spaced ∧ ∃ space named,
        (IsRun isBlank isBlank space (text.drop named) ∧ Spells text spaced space named) ∧
          IsRun startsIdentifier inIdentifier name.toList (text.drop stop) ∧
            Spells text named name.toList stop := by
  constructor
  · rintro ⟨inText, space, _, split, isSpace, rfl, isName⟩
    have whole : Spells text start (word ++ (space ++ name.toList)) stop := by
      rw [spells_iff (by simp [isSpace.notEmpty])]
      simpa using ⟨inText, split⟩
    simp only [spells_append_iff] at whole
    obtain ⟨spaced, isWord, named, isSpaced, isNamed⟩ := whole
    refine ⟨spaced, isWord, space, named, ⟨(isSpace_iff_isRun ?_).mp isSpace, isSpaced⟩,
      isName_iff_isRun.mp isName, isNamed⟩
    rw [isNamed.drop_eq]
    exact isName.isBlank_head?
  · rintro ⟨spaced, isWord, space, named, ⟨isRun, isSpaced⟩, isName, isNamed⟩
    have isSpace := (isSpace_iff_isRun isRun.ends).mpr isRun
    have whole : Spells text start (word ++ (space ++ name.toList)) stop :=
      spells_append_iff.mpr ⟨spaced, isWord, spells_append_iff.mpr ⟨named, isSpaced, isNamed⟩⟩
    obtain ⟨inText, split⟩ := (spells_iff (by simp [isSpace.notEmpty])).mp whole
    refine ⟨inText, space, _, ?_, isSpace, rfl, isName_iff_isRun.mpr isName⟩
    simpa using split

theorem matchesAt_introduction_iff {word : List Char} :
    MatchesAt text (introduction word) start captures stop ↔
      ∃ name, At text (Introduces word) start name stop ∧ captures = [name] := by
  show preferred text (sequence _ (sequence someSpace namePattern)) _ = _ ↔ _
  rw [preferred_literal_sequence_iff]
  simp only [at_introduces_iff, someSpace, namePattern, preferred_captured_run_iff,
    preferred_run_sequence_iff (rejects_run apart_blank_startsIdentifier).captured]
  constructor
  · rintro ⟨spaced, isWord, space, named, isSpaced, word, isName, isNamed, rfl⟩
    exact ⟨String.ofList word, ⟨spaced, isWord, space, named, isSpaced, by simpa using ⟨isName, isNamed⟩⟩,
      rfl⟩
  · rintro ⟨name, ⟨spaced, isWord, space, named, isSpaced, isName, isNamed⟩, rfl⟩
    exact ⟨spaced, isWord, space, named, isSpaced, _, isName, isNamed, by simp⟩

theorem preferred_takesFunction_iff {others : List String} :
    preferred text assignedFunction ⟨start, captures⟩ = some ⟨stop, others⟩ ↔
      (stop ≤ text.length ∧ TakesFunction (text.drop start) (text.drop stop)) ∧
        others = captures := by
  have isFunction : "function".toList = 'f' :: "unction".toList := rfl
  simp only [assignedFunction, TakesFunction, inOrder, anySpace, isFunction,
    preferred_many_literal_sequence_iff (by decide : isBlank '=' = false),
    preferred_many_literal_iff (by decide : isBlank 'f' = false)]
  constructor
  · rintro ⟨space, _, isSpace, equals, blanks, areBlank, function, rfl⟩
    have whole := spells_append_iff.mpr ⟨_, equals, function⟩
    obtain ⟨inText, split⟩ := (spells_iff (by simp)).mp whole
    exact ⟨⟨inText, space, blanks, by simpa using split, isSpace, areBlank⟩, rfl⟩
  · rintro ⟨⟨inText, space, blanks, split, isSpace, areBlank⟩, rfl⟩
    have whole : Spells text start ((space ++ ['=']) ++ (blanks ++ 'f' :: "unction".toList)) stop := by
      rw [spells_iff (by simp)]
      exact ⟨inText, by simpa using split⟩
    obtain ⟨_, equals, function⟩ := spells_append_iff.mp whole
    exact ⟨space, _, isSpace, equals, blanks, areBlank, function, rfl⟩

theorem preferred_takesArrow_iff {others : List String} :
    preferred text assignedArrow ⟨start, captures⟩ = some ⟨stop, others⟩ ↔
      (stop ≤ text.length ∧ TakesArrow (text.drop start) (text.drop stop)) ∧
        others = captures := by
  have isArrow : "=>".toList = ['=', '>'] := rfl
  have closes : ∀ {second way next},
      preferred text (sequence (many (· != ')')) (sequence (literal [')']) second)) way =
          some next ↔ _ :=
    preferred_many_literal_sequence_iff rfl
  have notClosing : ∀ parameters : List Char,
      (∀ c ∈ parameters, (c != ')') = true) ↔ ')' ∉ parameters := by
    intro parameters
    simp only [bne_iff_ne]
    exact ⟨fun differ isInside => differ _ isInside rfl, fun outside c member isClosing =>
      outside (isClosing ▸ member)⟩
  simp only [assignedArrow, TakesArrow, EndsInArrow, inOrder, anySpace, isArrow,
    preferred_many_literal_sequence_iff (by decide : isBlank '=' = false),
    preferred_many_literal_sequence_iff (by decide : isBlank '(' = false),
    closes,
    preferred_many_literal_iff (by decide : isBlank '=' = false), notClosing]
  constructor
  · rintro ⟨space, _, isSpace, equals, blanks, _, areBlank, opening, parameters, _, notInside,
      closing, others, areOther, arrow, rfl⟩
    have whole := spells_append_iff.mpr ⟨_, equals, spells_append_iff.mpr ⟨_, opening,
      spells_append_iff.mpr ⟨_, closing, arrow⟩⟩⟩
    obtain ⟨inText, split⟩ := (spells_iff (by simp)).mp whole
    exact ⟨⟨inText, space, blanks, _, by simpa using split, isSpace, areBlank, parameters, others,
      rfl, notInside, areOther⟩, rfl⟩
  · rintro ⟨⟨inText, space, blanks, _, split, isSpace, areBlank, parameters, others, rfl, notInside,
      areOther⟩, rfl⟩
    have whole : Spells text start ((space ++ ['=']) ++ ((blanks ++ ['(']) ++
        ((parameters ++ [')']) ++ (others ++ ['=', '>'])))) stop := by
      rw [spells_iff (by simp)]
      exact ⟨inText, by simpa using split⟩
    obtain ⟨_, equals, inner⟩ := spells_append_iff.mp whole
    obtain ⟨_, opening, later⟩ := spells_append_iff.mp inner
    obtain ⟨_, closing, arrow⟩ := spells_append_iff.mp later
    exact ⟨space, _, isSpace, equals, blanks, _, areBlank, opening, parameters, _, notInside,
      closing, others, areOther, arrow, rfl⟩

/-- A name ends in front of white space and an equals sign. -/
theorem rejects_anySpace_equals (second : Pattern) :
    (sequence anySpace (sequence (literal ['=']) second)).Rejects (Next inIdentifier) :=
  Rejects.many_sequence apart_inIdentifier_blank (rejects_literal (by decide)).sequence

theorem rejects_assignedFunction : assignedFunction.Rejects (Next inIdentifier) :=
  rejects_anySpace_equals _

theorem rejects_assignedArrow : assignedArrow.Rejects (Next inIdentifier) :=
  rejects_anySpace_equals _

theorem at_names_iff {name : String} :
    At text Names start name stop ↔
      IsRun startsIdentifier inIdentifier name.toList (text.drop stop) ∧
        Spells text start name.toList stop := by
  rw [← isName_iff_isRun, At, Names]
  constructor
  · rintro ⟨inText, split, isName⟩
    obtain ⟨first, more, isFirst, _⟩ := isName.starts
    exact ⟨isName, (spells_iff (by simp [isFirst])).mpr ⟨inText, split⟩⟩
  · rintro ⟨isName, spells⟩
    obtain ⟨first, more, isFirst, _⟩ := isName.starts
    obtain ⟨inText, split⟩ := (spells_iff (by simp [isFirst])).mp spells
    exact ⟨inText, split, isName⟩

theorem at_assigns_iff {name : String} :
    At text Assigns start name stop ↔ ∃ position,
      (IsRun startsIdentifier inIdentifier name.toList (text.drop position) ∧
        Spells text start name.toList position) ∧
      stop ≤ text.length ∧ TakesFunction (text.drop position) (text.drop stop) := by
  have leaves : ∀ place name rest, Names place name rest → rest <:+ place := by
    rintro _ _ _ ⟨rfl, _⟩
    exact List.suffix_append _ _
  simp only [← at_names_iff]
  exact at_parts_iff leaves

theorem at_bindsArrow_iff {name : String} :
    At text BindsArrow start name stop ↔ ∃ position,
      At text (Introduces "const".toList) start name position ∧
      stop ≤ text.length ∧ TakesArrow (text.drop position) (text.drop stop) := by
  refine at_parts_iff ?_
  rintro _ name rest ⟨space, _, rfl, _, rfl, _⟩
  exact ⟨"const".toList ++ (space ++ name.toList), by simp⟩

/-- The pattern of an assignment matches what is assigned a function. -/
theorem matchesAt_assignment_iff :
    MatchesAt text assignment start captures stop ↔
      ∃ name, At text Assigns start name stop ∧ captures = [name] := by
  unfold MatchesAt assignment namePattern
  rw [preferred_captured_run_sequence_iff rejects_assignedFunction]
  simp only [preferred_takesFunction_iff, at_assigns_iff]
  constructor
  · rintro ⟨word, position, ⟨isName, isNamed⟩, isFunction, rfl⟩
    exact ⟨String.ofList word, ⟨position, by simpa using ⟨isName, isNamed⟩, isFunction⟩, rfl⟩
  · rintro ⟨name, ⟨position, isNamed, isFunction⟩, rfl⟩
    exact ⟨name.toList, position, isNamed, isFunction, by simp⟩

/-- The pattern of an arrow function matches what is bound to one. -/
theorem matchesAt_arrowBinding_iff :
    MatchesAt text arrowBinding start captures stop ↔
      ∃ name, At text BindsArrow start name stop ∧ captures = [name] := by
  have rejectsName : (sequence namePattern assignedArrow).Rejects (Next isBlank) :=
    (rejects_run apart_blank_startsIdentifier).captured.sequence
  unfold MatchesAt arrowBinding
  simp only [inOrder, someSpace, preferred_literal_sequence_iff,
    preferred_run_sequence_iff rejectsName]
  simp only [namePattern, preferred_captured_run_sequence_iff rejects_assignedArrow,
    preferred_takesArrow_iff, at_bindsArrow_iff, at_introduces_iff]
  constructor
  · rintro ⟨spaced, isWord, space, named, isSpaced, word, position, ⟨isName, isNamed⟩, isArrow, rfl⟩
    exact ⟨String.ofList word, ⟨position, ⟨spaced, isWord, space, named, isSpaced,
      by simpa using ⟨isName, isNamed⟩⟩, isArrow⟩, rfl⟩
  · rintro ⟨name, ⟨position, ⟨spaced, isWord, space, named, isSpaced, isNamed⟩, isArrow⟩, rfl⟩
    exact ⟨spaced, isWord, space, named, isSpaced, name.toList, position, isNamed, isArrow, by simp⟩

/-- Patterns that together match what a shape recognizes match alike, and can be tried in any
order. -/
theorem matchesAt_anyOf_of_recognizes {patterns : List Pattern} {begins : Grammar String}
    {shape : (text : List Char) → Option (Taken String text)} (recognizes : Recognizes shape begins)
    (together : ∀ captures stop,
      (∃ pattern ∈ patterns, MatchesAt text pattern start captures stop) ↔
        ∃ name, At text begins start name stop ∧ captures = [name]) :
    MatchesAt text (anyOf patterns) start captures stop ↔
      ∃ name, At text begins start name stop ∧ captures = [name] := by
  rw [matchesAt_anyOf_iff, together]
  intro pattern isPattern other isOther captures stop others back isMatch isMatchToo
  obtain ⟨name, isThere, rfl⟩ := (together _ _).mp ⟨pattern, isPattern, isMatch⟩
  obtain ⟨again, isThereToo, rfl⟩ := (together _ _).mp ⟨other, isOther, isMatchToo⟩
  obtain ⟨rfl, rfl⟩ := recognizes.at_determined isThere isThereToo
  exact ⟨rfl, rfl⟩

/-- What the patterns of a function match, in any order. -/
theorem matchesAt_functionPatterns_iff {patterns : List Pattern}
    (sameMembers : patterns.Perm functionPatterns) :
    MatchesAt text (anyOf patterns) start captures stop ↔
      ∃ name, At text BindsFunction start name stop ∧ captures = [name] := by
  refine matchesAt_anyOf_of_recognizes recognizes_functionName? fun captures stop => ?_
  simp only [sameMembers.mem_iff, functionPatterns, List.mem_cons, List.not_mem_nil, or_false,
    exists_eq_or_imp, exists_eq_left, matchesAt_introduction_iff, matchesAt_assignment_iff,
    matchesAt_arrowBinding_iff, At, BindsFunction, functionShapes, Declares]
  simp only [← exists_or, ← or_and_right, ← and_or_left]

theorem matchesAt_anyIntroduction_iff {words : List (List Char)}
    (sameMembers : words.Perm binders) :
    MatchesAt text (anyIntroduction words) start captures stop ↔
      ∃ name, At text BindsVariable start name stop ∧ captures = [name] := by
  show MatchesAt text (sequence (anyOf _) _) _ _ _ ↔ _
  rw [matchesAt_sequence_anyOf_iff, List.map_map]
  refine matchesAt_anyOf_of_recognizes recognizes_variableName? fun captures stop => ?_
  constructor
  · rintro ⟨_, isPattern, isMatch⟩
    obtain ⟨word, isWord, rfl⟩ := List.mem_map.mp isPattern
    obtain ⟨name, ⟨inText, introduces⟩, rfl⟩ := matchesAt_introduction_iff.mp isMatch
    exact ⟨name, ⟨inText, word, sameMembers.mem_iff.mp isWord, introduces⟩, rfl⟩
  · rintro ⟨name, ⟨inText, word, isBinder, introduces⟩, rfl⟩
    exact ⟨_, List.mem_map_of_mem (sameMembers.mem_iff.mpr isBinder),
      matchesAt_introduction_iff.mpr ⟨name, ⟨inText, introduces⟩, rfl⟩⟩

end Patterns

/-! ## Scripts -/

private theorem ne_empty_of_isName {name : String} {rest : List Char}
    (isName : IsName name.toList rest) :
    name ≠ "" := by
  rintro rfl
  obtain ⟨first, more, isFirst, _⟩ := isName.starts
  cases isFirst

private theorem ne_empty_of_bindsFunction {text rest : List Char} {name : String}
    (binds : BindsFunction text name rest) : name ≠ "" := by
  simp only [BindsFunction, functionShapes, List.mem_cons, List.not_mem_nil, or_false,
    exists_eq_or_imp, exists_eq_left] at binds
  rcases binds with ⟨_, _, _, _, names⟩ | ⟨_, names, _⟩ | ⟨_, ⟨_, _, _, _, names⟩, _⟩
  all_goals exact ne_empty_of_isName names.2

private theorem ne_empty_of_bindsVariable {text rest : List Char} {name : String}
    (binds : BindsVariable text name rest) : name ≠ "" := by
  obtain ⟨_, _, _, _, _, _, names⟩ := binds
  exact ne_empty_of_isName names.2

/-- **The names of a script are what its grammars read.** The functions are read by three shapes of
which no two begin at one place, so that their patterns can be tried in any order; the variables are
read by the words that bind one. Each list has the names as they are written, each where it occurs
first. -/
theorem scriptElements_reads_bindings (text : String) :
    (∃ names, (scriptElements text).functionNames.items = names.eraseDups ∧
      ∀ patterns, patterns.Perm functionPatterns →
        ReadsNames BindsFunction (anyOf patterns) text.toList names) ∧
    (∀ place, functionShapes.Pairwise fun shape other =>
      ∀ name rest another back, shape place name rest → ¬other place another back) ∧
    ∃ names, (scriptElements text).variableNames.items = names.eraseDups ∧
      ∀ words, words.Perm binders →
        ReadsNames BindsVariable (anyIntroduction words) text.toList names := by
  have asWritten : ∀ kind : TokenKind, kind.isCaseInsensitive = false → ∀ names,
      (TokenSet.ofList kind names).items = names.eraseDups := by
    intro kind keepsCase names
    have same : kind.normalize = id := by
      funext raw
      simp [TokenKind.normalize, keepsCase]
    rw [TokenSet.items_ofList, same, List.map_id]
  refine ⟨⟨_, asWritten .jsFunction rfl _, ?_⟩, pairwise_functionShapes, _,
    asWritten .jsVariable rfl _, ?_⟩
  · intro patterns sameMembers
    exact readsNames_scan recognizes_functionName? leavesSuffix_functionName?
      (fun _ _ _ => ne_empty_of_bindsFunction)
      (fun _ _ _ _ => matchesAt_functionPatterns_iff sameMembers) _
  · intro words sameMembers
    exact readsNames_scan recognizes_variableName? leavesSuffix_variableName?
      (fun _ _ _ => ne_empty_of_bindsVariable)
      (fun _ _ _ _ => matchesAt_anyIntroduction_iff sameMembers) _

end WebCompat.Scan
