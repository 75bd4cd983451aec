import WebCompat.Proofs.Text.Lowercase
import WebCompat.Proofs.Text.Scan
import WebCompat.Proofs.Token.Set
import WebCompat.Scan.Script

/-!
Constants that are bound to arrow functions. Functions and variables are found by scans that know
nothing of each other. The binding of a constant is a binding of a variable too, so that the scan
for variables finds its name, unless it is already in the middle of another match: a binder in
front whose name runs into the word `const`. Then that longer name is the variable.

Owns: what the shapes of a script take; that the shape of such a constant is no other shape of a
function; and what becomes of its name among the variables.
-/

namespace WebCompat.Scan

open WebCompat.Text

/-! ## What the shapes take -/

/-- The three words that bind a variable. -/
def binders : List (List Char) :=
  ["var".toList, "let".toList, "const".toList]

private theorem exists_of_binder? {text : List Char} {taken : Taken Unit text}
    (found : binder? text = some taken) : ∃ binder ∈ binders, text = binder ++ taken.rest := by
  unfold binder? at found
  rcases Option.or_eq_some_iff.mp found with isVar | ⟨_, later⟩
  · exact ⟨_, List.mem_cons_self, append_rest_of_word? isVar⟩
  · rcases Option.or_eq_some_iff.mp later with isLet | ⟨_, isConst⟩
    · exact ⟨_, List.mem_cons_of_mem _ List.mem_cons_self, append_rest_of_word? isLet⟩
    · exact ⟨_, List.mem_cons_of_mem _ (List.mem_cons_of_mem _ List.mem_cons_self),
        append_rest_of_word? isConst⟩

theorem inIdentifier_of_starts {c : Char} (starts : startsIdentifier c = true) :
    inIdentifier c = true := by
  simp only [startsIdentifier, inIdentifier, Char.isAlphanum, Bool.or_eq_true] at starts ⊢
  rcases starts with (isLetter | isLine) | isDollar
  · exact .inl (.inl (.inl isLetter))
  · exact .inl (.inr isLine)
  · exact .inr isDollar

theorem inIdentifier_of_mem_const : ∀ c ∈ "const".toList, inIdentifier c = true :=
  List.all_eq_true.mp (by decide)

/-- A name is an identifier and reaches as far as it can. -/
structure IsName (name rest : List Char) : Prop where
  starts : ∃ first more, name = first :: more ∧ startsIdentifier first = true
  inClass : ∀ c ∈ name, inIdentifier c = true
  endsThere : ∀ c ∈ rest.head?, inIdentifier c = false

theorem isName_of_identifier? {text : List Char} {taken : Taken (List Char) text}
    (found : identifier? text = some taken) :
    text = taken.value ++ taken.rest ∧ IsName taken.value taken.rest := by
  obtain ⟨split, ⟨first, more, isName, starts, inMore⟩, endsThere⟩ := exists_of_run? found
  refine ⟨split, ⟨first, more, isName, starts⟩, ?_, endsThere⟩
  intro c member
  rw [isName] at member
  rcases List.mem_cons.mp member with rfl | later
  · exact inIdentifier_of_starts starts
  · exact inMore c later

/-- White space that is not empty. -/
structure IsSpace (space : List Char) : Prop where
  notEmpty : space ≠ []
  blank : ∀ c ∈ space, isBlank c = true

private theorem toNat_of_inIdentifier {c : Char} (inside : inIdentifier c = true) :
    0x24 ≤ c.toNat ∧ c.toNat ≤ 0x7A := by
  simp only [inIdentifier, Bool.or_eq_true, beq_iff_eq] at inside
  rcases inside with (isAlphanum | rfl) | rfl
  · have bounds := toNat_of_isAlphanum isAlphanum
    omega
  · decide
  · decide

/-- No white space is part of an identifier. -/
theorem inIdentifier_of_isBlank {c : Char} (blank : isBlank c = true) :
    inIdentifier c = false := by
  rw [Bool.eq_false_iff]
  intro inside
  have ⟨low, high⟩ := toNat_of_inIdentifier inside
  simp only [isBlank, Bool.or_eq_true, Bool.and_eq_true, decide_eq_true_eq, beq_iff_eq] at blank
  omega

/-- White space ends an identifier in front of it. -/
theorem IsSpace.ends_identifier {space : List Char} (isSpace : IsSpace space) (rest : List Char) :
    ∀ c ∈ (space ++ rest).head?, inIdentifier c = false := by
  obtain ⟨blank, blanks, rfl⟩ := List.exists_cons_of_ne_nil isSpace.notEmpty
  intro c isHead
  cases isHead
  exact inIdentifier_of_isBlank (isSpace.blank _ List.mem_cons_self)

/-- A binding of a variable: a binder, white space and a name. -/
theorem exists_of_variableName? {text : List Char} {taken : Taken String text}
    (found : variableName? text = some taken) :
    ∃ binder ∈ binders, ∃ space name, text = binder ++ space ++ name ++ taken.rest ∧
      IsSpace space ∧ IsName name taken.rest ∧ taken.value = String.ofList name := by
  simp only [variableName?, Option.bind_eq_bind, Option.bind_eq_some_iff] at found
  obtain ⟨keyword, isKeyword, blanks, areBlanks, name, isName, made⟩ := found
  cases made
  obtain ⟨binder, isBinder, split⟩ := exists_of_binder? isKeyword
  obtain ⟨space, splitSpace, notEmpty, blank, _⟩ := exists_of_blanks? areBlanks
  obtain ⟨splitName, nameReaches⟩ := isName_of_identifier? isName
  refine ⟨binder, isBinder, space, name.value, ?_, ⟨notEmpty, blank⟩, nameReaches, rfl⟩
  calc text = binder ++ keyword.rest := split
    _ = binder ++ (space ++ (name.value ++ name.rest)) := by
        exact congrArg (binder ++ ·) (splitSpace.trans (congrArg (space ++ ·) splitName))
    _ = binder ++ space ++ name.value ++ name.rest := by simp only [List.append_assoc]

/-- The binding of a constant to an arrow function: the word, white space and a name. -/
theorem exists_of_constArrow? {text : List Char} {taken : Taken String text}
    (found : constArrow? text = some taken) :
    ∃ space name rest, text = "const".toList ++ (space ++ (name ++ rest)) ∧
      IsSpace space ∧ IsName name rest ∧ taken.value = String.ofList name := by
  simp only [constArrow?, Option.bind_eq_bind, Option.bind_eq_some_iff] at found
  obtain ⟨keyword, isKeyword, blanks, areBlanks, name, isName, _, _, _, _, _, _, made⟩ := found
  cases made
  obtain ⟨space, splitSpace, notEmpty, blank, _⟩ := exists_of_blanks? areBlanks
  obtain ⟨splitName, nameReaches⟩ := isName_of_identifier? isName
  refine ⟨space, name.value, name.rest, ?_, ⟨notEmpty, blank⟩, nameReaches, rfl⟩
  calc text = "const".toList ++ keyword.rest := append_rest_of_word? isKeyword
    _ = "const".toList ++ (space ++ (name.value ++ name.rest)) := by
        exact congrArg _ (splitSpace.trans (congrArg (space ++ ·) splitName))

/-! ## What the shapes leave -/

theorem leavesSuffix_variableName? : LeavesSuffix variableName? := by
  intro text taken found
  obtain ⟨binder, _, space, name, split, _⟩ := exists_of_variableName? found
  exact ⟨binder ++ space ++ name, split.symm⟩

theorem leavesSuffix_identifier? : LeavesSuffix identifier? :=
  leavesSuffix_run? startsIdentifier inIdentifier

theorem leavesSuffix_declaredFunction? : LeavesSuffix declaredFunction? := by
  intro text taken found
  simp only [declaredFunction?, Option.bind_eq_bind, Option.bind_eq_some_iff] at found
  obtain ⟨keyword, isKeyword, blanks, areBlanks, name, isName, made⟩ := found
  cases made
  have toSpace : name.rest <:+ blanks.rest := leavesSuffix_identifier? _ _ isName
  have toKeyword : blanks.rest <:+ keyword.rest := leavesSuffix_blanks? _ _ areBlanks
  exact toSpace.trans (toKeyword.trans (leavesSuffix_word? _ _ _ _ isKeyword))

theorem leavesSuffix_assignedFunction? : LeavesSuffix assignedFunction? := by
  intro text taken found
  simp only [assignedFunction?, Option.bind_eq_bind, Option.bind_eq_some_iff] at found
  obtain ⟨name, isName, equals, isEquals, keyword, isKeyword, made⟩ := found
  cases made
  have toKeyword : keyword.rest <:+ skipBlank equals.rest := leavesSuffix_word? _ _ _ _ isKeyword
  have toEquals : skipBlank equals.rest <:+ equals.rest := List.dropWhile_suffix isBlank
  have toName : equals.rest <:+ name.rest := leavesSuffix_charAfterBlank? _ _ _ isEquals
  exact toKeyword.trans (toEquals.trans (toName.trans (leavesSuffix_identifier? _ _ isName)))

theorem leavesSuffix_arrowAfterParameters? : LeavesSuffix arrowAfterParameters? := by
  intro text taken found
  simp only [arrowAfterParameters?, Option.bind_eq_bind, Option.bind_eq_some_iff] at found
  obtain ⟨close, isClose, arrow, isArrow, made⟩ := found
  cases made
  have toArrow : arrow.rest <:+ skipBlank close.rest := leavesSuffix_word? _ _ _ _ isArrow
  have toClose : skipBlank close.rest <:+ close.rest := List.dropWhile_suffix isBlank
  have toParameters : close.rest <:+ text.dropWhile (· != ')') :=
    leavesSuffix_word? _ _ _ _ isClose
  exact toArrow.trans (toClose.trans (toParameters.trans (List.dropWhile_suffix _)))

theorem leavesSuffix_constArrow? : LeavesSuffix constArrow? := by
  intro text taken found
  simp only [constArrow?, Option.bind_eq_bind, Option.bind_eq_some_iff] at found
  obtain ⟨keyword, isKeyword, blanks, areBlanks, name, isName, equals, isEquals, parenthesis,
    isParenthesis, arrow, isArrow, made⟩ := found
  cases made
  have toParenthesis : arrow.rest <:+ parenthesis.rest :=
    leavesSuffix_arrowAfterParameters? _ _ isArrow
  have toEquals : parenthesis.rest <:+ equals.rest :=
    leavesSuffix_charAfterBlank? _ _ _ isParenthesis
  have toName : equals.rest <:+ name.rest := leavesSuffix_charAfterBlank? _ _ _ isEquals
  have toSpace : name.rest <:+ blanks.rest := leavesSuffix_identifier? _ _ isName
  have toKeyword : blanks.rest <:+ keyword.rest := leavesSuffix_blanks? _ _ areBlanks
  have toText : keyword.rest <:+ text := leavesSuffix_word? _ _ _ _ isKeyword
  exact toParenthesis.trans (toEquals.trans (toName.trans (toSpace.trans (toKeyword.trans toText))))

theorem leavesSuffix_functionName? : LeavesSuffix functionName? := by
  intro text taken found
  rcases Option.or_eq_some_iff.mp found with declared | ⟨_, later⟩
  · exact leavesSuffix_declaredFunction? _ _ declared
  · rcases Option.or_eq_some_iff.mp later with assigned | ⟨_, arrow⟩
    · exact leavesSuffix_assignedFunction? _ _ assigned
    · exact leavesSuffix_constArrow? _ _ arrow

/-! ## The shapes of a constant -/

section Arrow

variable {text : List Char} {taken : Taken String text}

private theorem head?_of_constArrow? (found : constArrow? text = some taken) :
    text.head? = some 'c' := by
  obtain ⟨_, _, _, split, _⟩ := exists_of_constArrow? found
  exact congrArg List.head? split

/-- It is the binding of a variable. -/
theorem variableName?_of_constArrow? (found : constArrow? text = some taken) :
    (variableName? text).map Taken.value = some taken.value := by
  have isHead := head?_of_constArrow? found
  simp only [constArrow?, Option.bind_eq_bind, Option.bind_eq_some_iff] at found
  obtain ⟨keyword, isKeyword, blanks, areBlanks, name, isName, _, _, _, _, _, _, made⟩ := found
  cases made
  have isBinder : binder? text = some keyword := by
    rw [binder?, word?_eq_none isHead (by decide), word?_eq_none isHead (by decide), isKeyword]
    rfl
  simp only [variableName?, Option.bind_eq_bind, isBinder, areBlanks, isName, Option.bind_some,
    Option.map_some]

/-- It is no assignment of a function: the word `const` is an identifier, but no equals sign
follows. -/
theorem assignedFunction?_of_constArrow? (found : constArrow? text = some taken) :
    assignedFunction? text = none := by
  obtain ⟨space, name, rest, split, isSpace, isName, _⟩ := exists_of_constArrow? found
  obtain ⟨first, more, rfl, starts⟩ := isName.starts
  have inFirst : inIdentifier first = true := inIdentifier_of_starts starts
  rw [Option.eq_none_iff_forall_ne_some]
  intro assigned isAssigned
  simp only [assignedFunction?, Option.bind_eq_bind, Option.bind_eq_some_iff] at isAssigned
  obtain ⟨word, isWord, equals, isEquals, _⟩ := isAssigned
  obtain ⟨splitWord, wordReaches⟩ := isName_of_identifier? isWord
  have sameText := splitWord.symm.trans split
  have isConst : word.value = "const".toList :=
    eq_of_append_eq_append sameText wordReaches.inClass inIdentifier_of_mem_const
      wordReaches.endsThere (isSpace.ends_identifier _)
  rw [isConst] at sameText
  have isRest := List.append_cancel_left sameText
  have noBlank : isBlank first = false := by
    rw [Bool.eq_false_iff]
    intro isBlankFirst
    rw [inIdentifier_of_isBlank isBlankFirst] at inFirst
    cases inFirst
  have skipped : skipBlank word.rest = first :: (more ++ rest) := by
    rw [isRest, skipBlank, List.dropWhile_append_of_pos isSpace.blank, List.cons_append,
      List.dropWhile_cons_of_neg (by rw [noBlank]; exact Bool.false_ne_true)]
  have noEquals : first ≠ '=' := by
    rintro rfl
    cases inFirst
  rw [charAfterBlank?, char?, word?_eq_none (c := first) (by rw [skipped]; rfl) noEquals]
    at isEquals
  cases isEquals

/-- Of the shapes of a function it has only its own. -/
theorem functionName?_of_constArrow? (found : constArrow? text = some taken) :
    functionName? text = some taken := by
  have notDeclared : declaredFunction? text = none := by
    rw [declaredFunction?, word?_eq_none (head?_of_constArrow? found) (by decide)]
    rfl
  rw [functionName?, notDeclared, assignedFunction?_of_constArrow? found, found]
  rfl

end Arrow

/-! ## Constants among the variables -/

/-- No binding of a variable has a `c` behind its first character and in front of its name. -/
theorem not_c_mem_tail {binder space : List Char} (isBinder : binder ∈ binders)
    (isSpace : IsSpace space) : 'c' ∉ (binder ++ space).tail := by
  have binderHas : ∀ binder ∈ binders, binder ≠ [] ∧ 'c' ∉ binder.tail := by decide
  obtain ⟨notEmpty, notInBinder⟩ := binderHas binder isBinder
  rw [List.tail_append_of_ne_nil notEmpty, List.mem_append]
  rintro (inBinder | inSpace)
  · exact notInBinder inBinder
  · have blank := isSpace.blank 'c' inSpace
    cases blank

/-- A binding of a variable that begins in front of a constant and reaches over its first
character has the word `const` as the end of its name. -/
theorem exists_letters_of_reaches {opening place : List Char} {taken : Taken String place}
    {bound : Taken String (opening ++ place)} (isArrow : constArrow? place = some taken)
    (isBound : variableName? (opening ++ place) = some bound) (notEmpty : opening ≠ [])
    (reaches : bound.rest.length < place.length) :
    ∃ binder ∈ binders, ∃ space letters, IsSpace space ∧ opening = binder ++ space ++ letters ∧
      bound.value = String.ofList (letters ++ "const".toList) := by
  obtain ⟨binder, isBinder, space, name, splitBound, isSpace, isName, isValue⟩ :=
    exists_of_variableName? isBound
  obtain ⟨blanks, other, back, splitArrow, areBlanks, _⟩ := exists_of_constArrow? isArrow
  have inFront : ∃ letters, opening = binder ++ space ++ letters ∧
      name ++ bound.rest = letters ++ place := by
    rw [List.append_assoc] at splitBound
    rcases List.append_eq_append_iff.mp splitBound with
      ⟨between, isFront, isPlace⟩ | ⟨letters, isOpening, isBehind⟩
    · cases between with
      | nil => exact ⟨[], by rw [isFront, List.append_nil, List.append_nil], isPlace.symm⟩
      | cons c between =>
          -- The place would begin with a `c` that the binder and its white space hold.
          have isC : c = 'c' := by
            have sameHead := congrArg List.head? (isPlace.symm.trans splitArrow)
            exact Option.some.inj sameHead
          refine absurd ?_ (not_c_mem_tail isBinder isSpace)
          rw [isFront, List.tail_append_of_ne_nil notEmpty, isC]
          exact List.mem_append_right _ List.mem_cons_self
    · exact ⟨letters, isOpening, isBehind⟩
  obtain ⟨letters, isOpening, isBehind⟩ := inFront
  refine ⟨binder, isBinder, space, letters, isSpace, isOpening, ?_⟩
  rw [isValue]
  congr 1
  have isShort : letters.length ≤ name.length := by
    have sameLength := congrArg List.length isBehind
    rw [List.length_append, List.length_append] at sameLength
    omega
  have startsName : letters <+: name :=
    List.prefix_of_prefix_length_le ⟨place, isBehind.symm⟩ (List.prefix_append _ _) isShort
  -- The name and the word after the letters end at the same place: where the identifier ends.
  have sameText : name ++ bound.rest =
      (letters ++ "const".toList) ++ (blanks ++ (other ++ back)) := by
    rw [isBehind, splitArrow, List.append_assoc]
  refine eq_of_append_eq_append sameText isName.inClass ?_ isName.endsThere
    (areBlanks.ends_identifier _)
  intro c member
  rcases List.mem_append.mp member with inLetters | inWord
  · exact isName.inClass c (startsName.subset inLetters)
  · exact inIdentifier_of_mem_const c inWord

section Sets

variable {text : String} {place : List Char} {taken : Taken String place}

theorem mem_functionNames (isPlace : place ∈ places functionName? text.toList)
    (found : functionName? place = some taken) :
    taken.value ∈ (scriptElements text).functionNames.items :=
  (TokenSet.mem_items_ofList _ _ _).mpr ⟨taken.value, value_mem_scan isPlace found, rfl⟩

theorem mem_variableNames (isPlace : place ∈ places variableName? text.toList)
    (found : variableName? place = some taken) :
    taken.value ∈ (scriptElements text).variableNames.items :=
  (TokenSet.mem_items_ofList _ _ _).mpr ⟨taken.value, value_mem_scan isPlace found, rfl⟩

/-- A constant that the scan for functions finds as an arrow function is a function of the
script. It is a variable too, or a binder in front of it has the word `const` as the end of its
name, and that name is a variable instead. -/
theorem arrow_constant_is_variable_or_swallowed
    (isPlace : place ∈ places functionName? text.toList)
    (isArrow : constArrow? place = some taken) :
    taken.value ∈ (scriptElements text).functionNames.items ∧
      (taken.value ∈ (scriptElements text).variableNames.items ∨
        ∃ binder ∈ binders, ∃ space letters, IsSpace space ∧
          binder ++ space ++ letters ++ place <:+ text.toList ∧
          String.ofList (letters ++ "const".toList) ∈ (scriptElements text).variableNames.items) := by
  refine ⟨mem_functionNames isPlace (functionName?_of_constArrow? isArrow), ?_⟩
  have isSuffix : place <:+ text.toList := suffix_of_mem_places leavesSuffix_functionName? isPlace
  obtain ⟨bound, isBound, sameName⟩ :=
    Option.map_eq_some_iff.mp (variableName?_of_constArrow? isArrow)
  rcases mem_places_or_covered leavesSuffix_variableName? isSuffix
      (by rw [isBound]; rfl) with isOwn | ⟨opening, covering, notEmpty, isTaken, covers, reaches⟩
  · left
    rw [← sameName]
    exact mem_variableNames isOwn isBound
  · right
    obtain ⟨binder, isBinder, space, letters, isSpace, rfl, isName⟩ :=
      exists_letters_of_reaches isArrow covers notEmpty reaches
    refine ⟨binder, isBinder, space, letters, isSpace,
      suffix_of_mem_places leavesSuffix_variableName? isTaken, ?_⟩
    rw [← isName]
    exact mem_variableNames isTaken covers

/-- A script of one constant. -/
def addition : String :=
  "const add = (a, b) => a + b;"

theorem addition_is_function_and_variable :
    addition.toList ∈ places functionName? addition.toList ∧
      "add" ∈ (scriptElements addition).functionNames.items ∧
      "add" ∈ (scriptElements addition).variableNames.items := by
  have isPlace : addition.toList ∈ places functionName? addition.toList := by decide +kernel
  obtain ⟨taken, isArrow, isAdd⟩ := Option.map_eq_some_iff.mp
    (show (constArrow? addition.toList).map Taken.value = some "add" by decide +kernel)
  obtain ⟨isFunction, isVariable | ⟨binder, _, space, letters, isSpace, inFront, _⟩⟩ :=
    arrow_constant_is_variable_or_swallowed isPlace isArrow
  · rw [isAdd] at isFunction isVariable
    exact ⟨isPlace, isFunction, isVariable⟩
  · -- Nothing stands in front of the constant.
    have fits := inFront.length_le
    have hasSpace := List.length_pos_iff.mpr isSpace.notEmpty
    simp only [List.length_append] at fits
    omega

/-- A comment that ends in a binder swallows the constant on the next line: the constant is a
function, and the word `const` is the variable. -/
theorem constant_swallowed_by_comment :
    addition.toList ∈ places functionName? ("// the outlet\n" ++ addition).toList ∧
      (scriptElements ("// the outlet\n" ++ addition)).functionNames.items = ["add"] ∧
      (scriptElements ("// the outlet\n" ++ addition)).variableNames.items = ["const"] := by
  decide +kernel

end Sets

end WebCompat.Scan
