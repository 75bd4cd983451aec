import Mathlib.Data.List.Nodup
import Mathlib.Data.List.Pairwise
import WebCompat.Proofs.Json.Schema

/-!
Fields of structures that do not get in the way of one another. In such a structure the order of the
members does not matter, and it can be told from a tree which fields are given.

Owns: the laws of fields; that members can be permuted and unknown ones be left out; and what a
structure that could be made of a tree says about the values in it.
-/

namespace WebCompat.Json

variable {σ α : Type}

/-! ## Laws of fields -/

namespace Field

/-- Whether something is what a value of a field does to the fields. -/
def Updates (field : Field σ) (update : σ → σ) : Prop :=
  ∃ tree, field.reader.on tree = some (.ok update)

theorem put_eq_some_iff {field : Field σ} {state next : σ} {tree : Tree} :
    field.put state tree = some next ↔
      ∃ update, field.reader.on tree = some (.ok update) ∧ update state = next := by
  unfold put
  cases field.reader.on tree with
  | none => simp
  | some fit => cases fit <;> simp [Except.toOption]

/-- Two fields that do not get in the way of each other. -/
structure Independent (field other : Field σ) : Prop where
  commute : ∀ first second, field.Updates first → other.Updates second → ∀ state,
    first (second state) = second (first state)
  keepsOther : ∀ update, field.Updates update → ∀ state,
    other.isGiven (update state) = other.isGiven state
  keeps : ∀ update, other.Updates update → ∀ state,
    field.isGiven (update state) = field.isGiven state

instance : Std.Symm (@Independent σ) where
  symm _ _ independent :=
    { commute := fun first second isFirst isSecond state =>
        (independent.commute second first isSecond isFirst state).symm
      keepsOther := independent.keeps
      keeps := independent.keepsOther }

/-- Whether every value of a field sets it to something. -/
def Sets {τ : Type} (field : Field σ) (set : τ → σ → σ) : Prop :=
  ∀ update, field.Updates update → ∃ value, update = set value

/-- Fields that are set apart from each other do not get in the way of each other. -/
theorem Independent.of_sets {τ τ' : Type} {field other : Field σ} {set : τ → σ → σ}
    {setOther : τ' → σ → σ} (sets : field.Sets set) (setsOther : other.Sets setOther)
    (commute : ∀ value otherValue state,
      set value (setOther otherValue state) = setOther otherValue (set value state))
    (keepsOther : ∀ value state, other.isGiven (set value state) = other.isGiven state)
    (keeps : ∀ value state, field.isGiven (setOther value state) = field.isGiven state) :
    field.Independent other where
  commute := by
    intro first second isFirst isSecond state
    obtain ⟨value, rfl⟩ := sets first isFirst
    obtain ⟨otherValue, rfl⟩ := setsOther second isSecond
    exact commute value otherValue state
  keepsOther := by
    intro update isUpdate state
    obtain ⟨value, rfl⟩ := sets update isUpdate
    exact keepsOther value state
  keeps := by
    intro update isUpdate state
    obtain ⟨value, rfl⟩ := setsOther update isUpdate
    exact keeps value state

end Field

namespace Schema

/-- The laws of a structure: its fields have different names, are given once they are put and not
before, and do not get in the way of one another. -/
structure IsLawful (schema : Schema σ α) : Prop where
  distinct : (schema.fields.map Field.name).Nodup
  empty : ∀ field ∈ schema.fields, field.isGiven schema.empty = false
  given : ∀ field ∈ schema.fields, ∀ update, field.Updates update → ∀ state,
    field.isGiven (update state) = true
  independent : schema.fields.Pairwise Field.Independent

variable {schema : Schema σ α}

theorem IsLawful.independent_of_ne (lawful : schema.IsLawful) {field other : Field σ}
    (isField : field ∈ schema.fields) (isOther : other ∈ schema.fields)
    (different : field.name ≠ other.name) : field.Independent other :=
  lawful.independent.forall isField isOther fun same => different (congrArg Field.name same)

def field? (schema : Schema σ α) (name : String) : Option (Field σ) :=
  schema.fields.find? fun field => field.name == name

theorem name_of_field? {name : String} {field : Field σ}
    (isFound : schema.field? name = some field) :
    field ∈ schema.fields ∧ field.name = name :=
  ⟨List.mem_of_find?_eq_some isFound, by simpa using List.find?_some isFound⟩

theorem IsLawful.field?_name (lawful : schema.IsLawful) {field : Field σ}
    (isField : field ∈ schema.fields) : schema.field? field.name = some field := by
  cases isFound : schema.field? field.name with
  | none =>
      have absent := List.find?_eq_none.mp isFound field isField
      simp at absent
  | some other =>
      obtain ⟨isOther, sameName⟩ := name_of_field? isFound
      rw [List.inj_on_of_nodup_map lawful.distinct isOther isField sameName]

/-! ## Members in any order -/

theorem valueOf_of_unknown {name : String} (unknown : schema.field? name = none) (state : σ)
    (tree : Tree) : schema.valueOf state name tree = some state := by
  rw [field?] at unknown
  rw [valueOf, unknown]

theorem valueOf_eq_some_iff {name : String} {field : Field σ}
    (isFound : schema.field? name = some field) {state next : σ} {tree : Tree} :
    schema.valueOf state name tree = some next ↔
      field.isGiven state = false ∧
        ∃ update, field.reader.on tree = some (.ok update) ∧ update state = next := by
  rw [field?] at isFound
  rw [valueOf, isFound]
  dsimp only
  by_cases given : field.isGiven state
  · simp [given]
  · simp [given, Field.put_eq_some_iff]

theorem IsLawful.step_of_field (lawful : schema.IsLawful) {field : Field σ}
    (isField : field ∈ schema.fields) {key : List Piece} (isName : string? key = some field.name)
    {state : σ} (notGiven : field.isGiven state = false) {tree : Tree} {update : σ → σ}
    (isUpdate : field.reader.on tree = some (.ok update)) :
    schema.step state (key, tree) = some (update state) := by
  rw [step, isName, Option.bind_some, valueOf_eq_some_iff (lawful.field?_name isField)]
  exact ⟨notGiven, update, isUpdate, rfl⟩

/-- What two members do one after the other, they do the other way round. -/
theorem IsLawful.valueOf_swap (lawful : schema.IsLawful) {state next final : σ}
    {name other : String} {tree otherTree : Tree}
    (toNext : schema.valueOf state name tree = some next)
    (toFinal : schema.valueOf next other otherTree = some final) :
    ∃ middle, schema.valueOf state other otherTree = some middle ∧
      schema.valueOf middle name tree = some final := by
  cases isFound : schema.field? name with
  | none =>
      rw [valueOf_of_unknown isFound] at toNext
      cases toNext
      exact ⟨final, toFinal, valueOf_of_unknown isFound final tree⟩
  | some field =>
      cases isOther : schema.field? other with
      | none =>
          rw [valueOf_of_unknown isOther] at toFinal
          cases toFinal
          exact ⟨state, valueOf_of_unknown isOther state otherTree, toNext⟩
      | some second =>
          obtain ⟨notGiven, update, isUpdate, rfl⟩ := (valueOf_eq_some_iff isFound).mp toNext
          obtain ⟨notGivenNext, updateSecond, isSecond, rfl⟩ :=
            (valueOf_eq_some_iff isOther).mp toFinal
          obtain ⟨fieldMember, rfl⟩ := name_of_field? isFound
          obtain ⟨secondMember, rfl⟩ := name_of_field? isOther
          -- The second of two members with one name would find its field given.
          have different : field.name ≠ second.name := by
            intro same
            rw [← same, isFound] at isOther
            cases isOther
            rw [lawful.given field fieldMember update ⟨tree, isUpdate⟩] at notGivenNext
            cases notGivenNext
          have independent := lawful.independent_of_ne fieldMember secondMember different
          rw [independent.keepsOther update ⟨tree, isUpdate⟩] at notGivenNext
          rw [← independent.keeps updateSecond ⟨otherTree, isSecond⟩] at notGiven
          have commute :=
            independent.commute update updateSecond ⟨tree, isUpdate⟩ ⟨otherTree, isSecond⟩ state
          exact ⟨updateSecond state,
            (valueOf_eq_some_iff isOther).mpr ⟨notGivenNext, updateSecond, isSecond, rfl⟩,
            (valueOf_eq_some_iff isFound).mpr ⟨notGiven, update, isUpdate, commute⟩⟩

/-- Two members of a structure can be taken in either order. -/
theorem IsLawful.step_comm (lawful : schema.IsLawful) (state : σ)
    (member other : List Piece × Tree) :
    ((schema.step state member).bind fun next => schema.step next other) =
      (schema.step state other).bind fun next => schema.step next member := by
  have swap : ∀ (member other : List Piece × Tree) (final : σ),
      ((schema.step state member).bind fun next => schema.step next other) = some final →
        ((schema.step state other).bind fun next => schema.step next member) = some final := by
    intro member other final leads
    obtain ⟨next, toNext, toFinal⟩ := Option.bind_eq_some_iff.mp leads
    obtain ⟨name, isName, named⟩ := Option.bind_eq_some_iff.mp toNext
    obtain ⟨otherName, isOther, otherNamed⟩ := Option.bind_eq_some_iff.mp toFinal
    obtain ⟨middle, toMiddle, toEnd⟩ := lawful.valueOf_swap named otherNamed
    simp only [step, isName, isOther, Option.bind_some, toMiddle, toEnd]
  rw [Option.ext_iff]
  exact fun final => ⟨swap member other final, swap other member final⟩

/-- Steps that commute can be taken in any order. -/
theorem foldlM_eq_of_perm {β : Type} {f : σ → β → Option σ}
    (comm : ∀ state first second,
      ((f state first).bind fun next => f next second) =
        (f state second).bind fun next => f next first)
    {bs others : List β} (perm : bs.Perm others) (state : σ) :
    bs.foldlM f state = others.foldlM f state := by
  induction perm generalizing state with
  | nil => rfl
  | cons b _ inductionHypothesis =>
      rw [List.foldlM_cons, List.foldlM_cons]
      exact congrArg _ (funext inductionHypothesis)
  | swap first second bs =>
      simp only [List.foldlM_cons, Option.bind_eq_bind, ← Option.bind_assoc,
        comm state first second]
  | trans _ _ first second => rw [first state, second state]

/-- **The order of the members of a structure does not matter.** -/
theorem IsLawful.ofTree_eq_of_perm (lawful : schema.IsLawful)
    {members others : List (List Piece × Tree)} (perm : members.Perm others) :
    schema.ofTree (.object members) = schema.ofTree (.object others) := by
  rw [ofTree, ofTree, stateOf, stateOf, foldlM_eq_of_perm lawful.step_comm perm]

/-! ## What is given for a field -/

def names (schema : Schema σ α) : List String :=
  schema.fields.map Field.name

theorem IsLawful.isGiven_of_put (lawful : schema.IsLawful) {field other : Field σ}
    (isField : field ∈ schema.fields) (isOther : other ∈ schema.fields) {state next : σ}
    {tree : Tree} (isPut : other.put state tree = some next) (given : field.isGiven next = true) :
    field.isGiven state = true ∨ field.name = other.name := by
  obtain ⟨update, isUpdate, rfl⟩ := Field.put_eq_some_iff.mp isPut
  by_cases same : field.name = other.name
  · exact .inr same
  · have independent := lawful.independent_of_ne isField isOther same
    have keeps := independent.keeps update ⟨tree, isUpdate⟩ state
    exact .inl (keeps ▸ given)

section Given

variable {field : Field σ} (isField : field ∈ schema.fields)

include isField

theorem IsLawful.on_of_mem_members (lawful : schema.IsLawful) {members : List (List Piece × Tree)}
    {state final : σ} (leads : members.foldlM schema.step state = some final)
    {member : List Piece × Tree} (isMember : member ∈ members)
    (isName : string? member.1 = some field.name) :
    ∃ update, field.reader.on member.2 = some (.ok update) := by
  induction members generalizing state with
  | nil => cases isMember
  | cons first members inductionHypothesis =>
      obtain ⟨next, toNext, toFinal⟩ := Option.bind_eq_some_iff.mp leads
      rcases List.mem_cons.mp isMember with rfl | later
      · rw [step, isName, Option.bind_some,
          valueOf_eq_some_iff (lawful.field?_name isField)] at toNext
        obtain ⟨_, update, isUpdate, _⟩ := toNext
        exact ⟨update, isUpdate⟩
      · exact inductionHypothesis toFinal later

theorem IsLawful.exists_member_of_isGiven (lawful : schema.IsLawful)
    {members : List (List Piece × Tree)} {state final : σ}
    (leads : members.foldlM schema.step state = some final) (given : field.isGiven final = true) :
    field.isGiven state = true ∨ ∃ member ∈ members, string? member.1 = some field.name := by
  induction members generalizing state with
  | nil =>
      cases leads
      exact .inl given
  | cons first members inductionHypothesis =>
      obtain ⟨next, toNext, toFinal⟩ := Option.bind_eq_some_iff.mp leads
      rcases inductionHypothesis toFinal with givenNext | ⟨member, isMember, isName⟩
      · obtain ⟨name, isName, named⟩ := Option.bind_eq_some_iff.mp toNext
        cases isFound : schema.field? name with
        | none =>
            rw [valueOf_of_unknown isFound] at named
            cases named
            exact .inl givenNext
        | some other =>
            obtain ⟨isOther, rfl⟩ := name_of_field? isFound
            obtain ⟨_, isUpdate⟩ := (valueOf_eq_some_iff isFound).mp named
            rcases lawful.isGiven_of_put isField isOther (Field.put_eq_some_iff.mpr isUpdate)
              givenNext with before | same
            · exact .inl before
            · exact .inr ⟨first, List.mem_cons_self, same ▸ isName⟩
      · exact .inr ⟨member, List.mem_cons_of_mem _ isMember, isName⟩

theorem IsLawful.exists_item_of_isGiven (lawful : schema.IsLawful) {fields : List (Field σ)}
    (areFields : ∀ other ∈ fields, other ∈ schema.fields) {items : List Tree} {state final : σ}
    (leads : putItems fields state items = some final) (given : field.isGiven final = true) :
    field.isGiven state = true ∨
      ∃ item, (field.name, item) ∈ (fields.map Field.name).zip items := by
  induction items generalizing fields state with
  | nil =>
      cases fields <;> cases leads <;> exact .inl given
  | cons item items inductionHypothesis =>
      cases fields with
      | nil => cases leads
      | cons other fields =>
          rw [List.forall_mem_cons] at areFields
          obtain ⟨next, toNext, toFinal⟩ := Option.bind_eq_some_iff.mp leads
          rw [List.map_cons, List.zip_cons_cons]
          rcases inductionHypothesis areFields.2 toFinal with givenNext | ⟨later, isPair⟩
          · rcases lawful.isGiven_of_put isField areFields.1 toNext givenNext with before | same
            · exact .inl before
            · exact .inr ⟨item, same ▸ List.mem_cons_self⟩
          · exact .inr ⟨later, List.mem_cons_of_mem _ isPair⟩

omit isField in
private theorem on_of_mem_zip {fields : List (Field σ)} {items : List Tree} {state final : σ}
    (leads : putItems fields state items = some final) {item : Tree}
    (isPair : (field, item) ∈ fields.zip items) :
    ∃ update, field.reader.on item = some (.ok update) := by
  induction items generalizing fields state with
  | nil => simp at isPair
  | cons first items inductionHypothesis =>
      cases fields with
      | nil => cases leads
      | cons other fields =>
          obtain ⟨next, toNext, toFinal⟩ := Option.bind_eq_some_iff.mp leads
          rw [List.zip_cons_cons] at isPair
          rcases List.mem_cons.mp isPair with same | later
          · cases same
            obtain ⟨update, isUpdate, _⟩ := Field.put_eq_some_iff.mp toNext
            exact ⟨update, isUpdate⟩
          · exact inductionHypothesis toFinal later

end Given

end Schema

/-- The values that a structure gives under a name: of the members of an object, or of the item of
a list that stands in the place of the name. -/
def Tree.given (names : List String) (name : String) : Tree → List Tree
  | .list items => ((names.zip items).filter fun pair => pair.1 = name).map Prod.snd
  | .object members => (members.filter fun member => Json.string? member.1 = some name).map Prod.snd
  | _ => []

section Structures

variable {schema : Schema σ α} (lawful : schema.IsLawful) {tree : Tree} {state : σ}
  (isMade : schema.stateOf tree = some state) {field : Field σ} (isField : field ∈ schema.fields)

include lawful isMade isField

/-- Every value given for a field is one that the field takes. -/
theorem Schema.on_of_mem_given {value : Tree}
    (isValue : value ∈ tree.given schema.names field.name) :
    ∃ update, field.reader.on value = some (.ok update) := by
  cases tree with
  | list items =>
      simp only [Tree.given, List.mem_map, List.mem_filter, decide_eq_true_eq] at isValue
      obtain ⟨⟨name, item⟩, ⟨isPair, rfl⟩, rfl⟩ := isValue
      rw [names, List.zip_map_left, List.mem_map] at isPair
      obtain ⟨⟨other, item⟩, isPair, same⟩ := isPair
      obtain ⟨sameName, rfl⟩ := Prod.mk.inj same
      have isOther := (List.of_mem_zip isPair).1
      cases List.inj_on_of_nodup_map lawful.distinct isOther isField sameName
      exact on_of_mem_zip isMade isPair
  | object members =>
      simp only [Tree.given, List.mem_map, List.mem_filter, decide_eq_true_eq] at isValue
      obtain ⟨member, ⟨isMember, isName⟩, rfl⟩ := isValue
      exact lawful.on_of_mem_members isField isMade isMember isName
  | null | bool | number | text => cases isMade

/-- A field that is given has a value in the tree. -/
theorem Schema.exists_mem_given (given : field.isGiven state = true) :
    ∃ value, value ∈ tree.given schema.names field.name := by
  have notBefore := lawful.empty field isField
  cases tree with
  | list items =>
      rcases lawful.exists_item_of_isGiven isField (fun other isOther => isOther) isMade given with
        before | ⟨item, isPair⟩
      · rw [notBefore] at before
        cases before
      · refine ⟨item, ?_⟩
        simp only [Tree.given, List.mem_map, List.mem_filter, decide_eq_true_eq]
        exact ⟨(field.name, item), ⟨isPair, rfl⟩, rfl⟩
  | object members =>
      rcases lawful.exists_member_of_isGiven isField isMade given with
        before | ⟨member, isMember, isName⟩
      · rw [notBefore] at before
        cases before
      · refine ⟨member.2, ?_⟩
        simp only [Tree.given, List.mem_map, List.mem_filter, decide_eq_true_eq]
        exact ⟨member, ⟨isMember, isName⟩, rfl⟩
  | null | bool | number | text => cases isMade

end Structures

/-! ## What a field holds -/

/-- A part of the fields that one of them fills with what its value means, and no other touches. -/
structure Schema.Fills {β : Type} (schema : Schema σ α) (field : Field σ) (part : σ → Option β)
    (meaning : Tree → Option β) : Prop where
  isField : field ∈ schema.fields
  empty : part schema.empty = none
  isGiven : ∀ state, field.isGiven state = (part state).isSome
  own : ∀ tree update, field.reader.on tree = some (.ok update) →
    ∃ value, meaning tree = some value ∧ ∀ state, part (update state) = some value
  others : ∀ other ∈ schema.fields, other.name ≠ field.name → ∀ update, other.Updates update →
    ∀ state, part (update state) = part state

namespace Schema.Fills

variable {β : Type} {schema : Schema σ α} {field : Field σ} {part : σ → Option β}
  {meaning : Tree → Option β}

/-- What a field holds behind a value for it or for another field. -/
theorem part_of_put (fills : schema.Fills field part meaning) (lawful : schema.IsLawful)
    {other : Field σ} (isOther : other ∈ schema.fields) {state next : σ} {tree : Tree}
    (isPut : other.put state tree = some next) :
    (other = field ∧ ∃ value, meaning tree = some value ∧ part next = some value) ∨
      other.name ≠ field.name ∧ part next = part state := by
  obtain ⟨update, isUpdate, rfl⟩ := Field.put_eq_some_iff.mp isPut
  by_cases same : other.name = field.name
  · cases List.inj_on_of_nodup_map lawful.distinct isOther fills.isField same
    obtain ⟨value, means, holds⟩ := fills.own tree update isUpdate
    exact .inl ⟨rfl, value, means, holds state⟩
  · exact .inr ⟨same, fills.others other isOther same update ⟨tree, isUpdate⟩ state⟩

private theorem part_of_members (fills : schema.Fills field part meaning) (lawful : schema.IsLawful)
    {members : List (List Piece × Tree)} {state final : σ}
    (leads : members.foldlM schema.step state = some final) :
    (part state).toList.map some ++
        (members.filter fun member => Json.string? member.1 = some field.name).map
          (fun member => meaning member.2) =
      (part final).toList.map some := by
  induction members generalizing state with
  | nil =>
      cases leads
      simp
  | cons member members inductionHypothesis =>
      obtain ⟨next, toNext, toFinal⟩ := Option.bind_eq_some_iff.mp leads
      obtain ⟨name, isName, named⟩ := Option.bind_eq_some_iff.mp toNext
      have holds : (part state).toList.map some ++
          (if name = field.name then [meaning member.2] else []) = (part next).toList.map some := by
        cases isFound : schema.field? name with
        | none =>
            rw [valueOf_of_unknown isFound] at named
            cases named
            have isOther : name ≠ field.name := by
              rintro rfl
              rw [lawful.field?_name fills.isField] at isFound
              cases isFound
            rw [if_neg isOther, List.append_nil]
        | some other =>
            obtain ⟨isOther, rfl⟩ := name_of_field? isFound
            obtain ⟨notGiven, isUpdate⟩ := (valueOf_eq_some_iff isFound).mp named
            rcases fills.part_of_put lawful isOther (Field.put_eq_some_iff.mpr isUpdate) with
              ⟨rfl, value, means, holds⟩ | ⟨differs, kept⟩
            · rw [fills.isGiven, Option.isSome_eq_false_iff, Option.isNone_iff_eq_none] at notGiven
              simp [notGiven, means, holds]
            · rw [if_neg differs, List.append_nil, kept]
      rw [← inductionHypothesis toFinal, ← holds, List.filter_cons, isName]
      by_cases same : name = field.name
      · simp [same]
      · simp [same]

private theorem part_of_items (fills : schema.Fills field part meaning) (lawful : schema.IsLawful)
    {fields : List (Field σ)} (areFields : ∀ other ∈ fields, other ∈ schema.fields)
    (distinct : (fields.map Field.name).Nodup) {items : List Tree} {state final : σ}
    (isFresh : field ∈ fields → part state = none)
    (leads : putItems fields state items = some final) :
    (part state).toList.map some ++
        (((fields.map Field.name).zip items).filter fun pair => pair.1 = field.name).map
          (fun pair => meaning pair.2) =
      (part final).toList.map some := by
  induction items generalizing fields state with
  | nil =>
      cases fields <;> cases leads <;> simp
  | cons item items inductionHypothesis =>
      cases fields with
      | nil => cases leads
      | cons other fields =>
          rw [List.forall_mem_cons] at areFields
          rw [List.map_cons, List.nodup_cons] at distinct
          obtain ⟨next, toNext, toFinal⟩ := Option.bind_eq_some_iff.mp leads
          rw [List.map_cons, List.zip_cons_cons, List.filter_cons]
          rcases fills.part_of_put lawful areFields.1 toNext with
            ⟨rfl, value, means, holds⟩ | ⟨differs, kept⟩
          · -- The field is none of the fields behind it.
            have isLast : other ∉ fields := fun later => distinct.1 (List.mem_map_of_mem later)
            rw [← inductionHypothesis areFields.2 distinct.2 (fun later => absurd later isLast)
              toFinal]
            simp [isFresh List.mem_cons_self, means, holds]
          · rw [← inductionHypothesis areFields.2 distinct.2
              (fun later => kept.trans (isFresh (List.mem_cons_of_mem _ later))) toFinal, kept]
            simp [differs]

/-- **A structure holds in a field just what its tree gives for it.** -/
theorem map_given (fills : schema.Fills field part meaning) (lawful : schema.IsLawful)
    {tree : Tree} {state : σ} (isMade : schema.stateOf tree = some state) :
    (tree.given schema.names field.name).map meaning = (part state).toList.map some := by
  cases tree with
  | list items =>
      have filled := fills.part_of_items lawful (fun _ isOther => isOther) lawful.distinct
        (fun _ => fills.empty) isMade
      rw [fills.empty] at filled
      simpa [Tree.given, names, Function.comp_def] using filled
  | object members =>
      have filled := fills.part_of_members lawful isMade
      rw [fills.empty] at filled
      simpa [Tree.given, Function.comp_def] using filled
  | null | bool | number | text => cases isMade

end Schema.Fills

end WebCompat.Json
