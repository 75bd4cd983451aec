import Mathlib.Data.List.Perm.Basic
import WebCompat.Proofs.Json.Fields
import WebCompat.Proofs.KeyMap

/-!
Edits of trees that no reader notices: members that a structure does not know are added, and members
are put into another order. Such an edit may be made within lists, tables and the fields of
structures.

Owns: the edits of structures, lists and tables; and that what the edited tree means is the same if
the parts that are edited mean the same.
-/

namespace WebCompat.Json

variable {σ α : Type}

namespace Schema

variable {schema : Schema σ α}

/-! ## Structures -/

private theorem field?_eq_none_of_unknown {name : String} (unknown : name ∉ schema.names) :
    schema.field? name = none := by
  rw [field?, List.find?_eq_none]
  intro field isField same
  exact unknown (List.mem_map.mpr ⟨field, isField, by simpa using same⟩)

/-- One edit of a tree that is a structure: a member with an unknown name is put anywhere, or the
members are permuted, or the value of a field is edited. -/
inductive Edit (schema : Schema σ α) (inField : String → Tree → Tree → Prop) : Tree → Tree → Prop
  | added (front back : List (List Piece × Tree)) {key : List Piece} {name : String} (tree : Tree) :
      string? key = some name → name ∉ schema.names →
        Edit schema inField (.object (front ++ back)) (.object (front ++ (key, tree) :: back))
  | permuted {members others : List (List Piece × Tree)} : members.Perm others →
      Edit schema inField (.object members) (.object others)
  | inMember (front back : List (List Piece × Tree)) {key : List Piece} {name : String}
      {old new : Tree} : string? key = some name → inField name old new →
        Edit schema inField (.object (front ++ (key, old) :: back))
          (.object (front ++ (key, new) :: back))
  | inItem (front back : List Tree) {name : String} {old new : Tree} :
      schema.names[front.length]? = some name → inField name old new →
        Edit schema inField (.list (front ++ old :: back)) (.list (front ++ new :: back))

theorem putItems_append_congr {old new : Tree} (front back : List Tree) {fields : List (Field σ)}
    (same : ∀ field, fields[front.length]? = some field → field.reader.on old = field.reader.on new)
    (state : σ) :
    putItems fields state (front ++ old :: back) =
      putItems fields state (front ++ new :: back) := by
  induction front generalizing fields state with
  | nil =>
      cases fields with
      | nil => rfl
      | cons field fields =>
          have sameOn := same field rfl
          simp only [List.nil_append, putItems, Field.put, sameOn]
  | cons item front inductionHypothesis =>
      cases fields with
      | nil => rfl
      | cons field fields =>
          simp only [List.cons_append, putItems]
          exact congrArg _ (funext (inductionHypothesis same))

/-- **What a structure does not know, and the order of its members, do not matter to it.** -/
theorem Edit.ofTree_eq (lawful : schema.IsLawful) {inField : String → Tree → Tree → Prop}
    (sameField : ∀ field ∈ schema.fields, ∀ old new, inField field.name old new →
      field.reader.on old = field.reader.on new)
    {tree other : Tree} (edit : schema.Edit inField tree other) :
    schema.ofTree tree = schema.ofTree other := by
  cases edit with
  | added front back added isName unknown =>
      rename_i key name
      have noEffect : ∀ state, schema.step state (key, added) = some state := by
        intro state
        rw [step, isName]
        exact valueOf_of_unknown (field?_eq_none_of_unknown unknown) state added
      simp only [ofTree, stateOf, List.foldlM_append, List.foldlM_cons, noEffect]
      rfl
  | permuted perm => exact lawful.ofTree_eq_of_perm perm
  | inMember front back isName edited =>
      rename_i key name old new
      have sameEffect : ∀ state, schema.step state (key, old) = schema.step state (key, new) := by
        intro state
        simp only [step, isName, Option.bind_some]
        cases isFound : schema.field? name with
        | none => rw [valueOf_of_unknown isFound, valueOf_of_unknown isFound]
        | some field =>
            obtain ⟨isField, rfl⟩ := name_of_field? isFound
            rw [Option.ext_iff]
            intro next
            rw [valueOf_eq_some_iff isFound, valueOf_eq_some_iff isFound,
              sameField field isField old new edited]
      simp only [ofTree, stateOf, List.foldlM_append, List.foldlM_cons, sameEffect]
  | inItem front back isName edited =>
      rename_i name old new
      have sameOn : ∀ field, schema.fields[front.length]? = some field →
          field.reader.on old = field.reader.on new := by
        intro field isField
        rw [names, List.getElem?_map, isField] at isName
        cases isName
        exact sameField field (List.mem_of_getElem? isField) old new edited
      rw [ofTree, ofTree, stateOf, stateOf, putItems_append_congr front back sameOn]

theorem Edit.optional?_eq {inField : String → Tree → Tree → Prop} {tree other : Tree}
    (edit : schema.Edit inField tree other) {meaning : Tree → Option α}
    (same : meaning tree = meaning other) : tree.optional? meaning = other.optional? meaning := by
  cases edit with
  | added | permuted | inMember | inItem => exact congrArg (Option.map some) same

end Schema

/-! ## Lists and tables -/

/-- One edit within a list: an item is edited. -/
inductive ListEdit (edit : Tree → Tree → Prop) : Tree → Tree → Prop
  | inItem (front back : List Tree) {old new : Tree} : edit old new →
      ListEdit edit (.list (front ++ old :: back)) (.list (front ++ new :: back))

/-- One edit of a table: members with distinct keys are permuted, or the value of a member is
edited. -/
inductive TableEdit (edit : Tree → Tree → Prop) : Tree → Tree → Prop
  | permuted {members others : List (List Piece × Tree)} :
      (members.map fun member => string? member.1).Nodup → members.Perm others →
        TableEdit edit (.object members) (.object others)
  | inValue (front back : List (List Piece × Tree)) (key : List Piece) {old new : Tree} :
      edit old new →
        TableEdit edit (.object (front ++ (key, old) :: back))
          (.object (front ++ (key, new) :: back))

section Parts

variable {edit : Tree → Tree → Prop} {meaning : Tree → Option α}
  (same : ∀ old new, edit old new → meaning old = meaning new)

include same

/-- A list keeps its meaning if its items do. -/
theorem ListEdit.list?_eq {tree other : Tree} (edited : ListEdit edit tree other) :
    tree.list? meaning = other.list? meaning := by
  cases edited with
  | inItem front back isEdit =>
      simp only [Tree.list?, List.mapM_append, List.mapM_cons, same _ _ isEdit]

omit same in
private theorem map_some_keys {members : List (List Piece × Tree)} {entries : List (String × α)}
    (mean : members.mapM (memberOf string? meaning) = some entries) :
    (members.map fun member => string? member.1) = (entries.map Prod.fst).map some := by
  rw [mapM_eq_some_iff] at mean
  induction mean with
  | nil => rfl
  | cons isEntry _ inductionHypothesis =>
      obtain ⟨name, isName, named⟩ := Option.bind_eq_some_iff.mp isEntry
      obtain ⟨value, _, rfl⟩ := Option.map_eq_some_iff.mp named
      rw [List.map_cons, List.map_cons, List.map_cons, isName, inductionHypothesis]

omit same in
/-- **The order of the members of a table does not matter**, as long as no key is repeated. -/
theorem map_ofList_eq_some_of_perm {members others : List (List Piece × Tree)}
    (distinct : (members.map fun member => string? member.1).Nodup) (perm : members.Perm others)
    {map : KeyMap α}
    (mean : (members.mapM (memberOf string? meaning)).map KeyMap.ofList = some map) :
    (others.mapM (memberOf string? meaning)).map KeyMap.ofList = some map := by
  obtain ⟨entries, areEntries, rfl⟩ := Option.map_eq_some_iff.mp mean
  rw [map_some_keys areEntries] at distinct
  obtain ⟨otherEntries, areOthers, permuted⟩ :=
    List.perm_comp_forall₂ perm.symm (mapM_eq_some_iff.mp areEntries)
  rw [mapM_eq_some_iff.mpr areOthers, Option.map_some]
  exact congrArg some (KeyMap.ofList_eq_of_perm (distinct.of_map some) permuted.symm).symm

/-- A table makes the same map if its values keep their meaning, in whatever order its members
stand. -/
theorem TableEdit.keyMap_eq {tree other : Tree} (edited : TableEdit edit tree other) :
    (tree.table? meaning).map KeyMap.ofList = (other.table? meaning).map KeyMap.ofList := by
  cases edited with
  | permuted distinct perm =>
      rw [Option.ext_iff]
      intro map
      constructor
      · exact map_ofList_eq_some_of_perm distinct perm
      · exact map_ofList_eq_some_of_perm ((perm.map _).nodup_iff.mp distinct) perm.symm
  | inValue front back key isEdit =>
      simp only [Tree.table?, List.mapM_append, List.mapM_cons, memberOf, same _ _ isEdit]

end Parts

end WebCompat.Json
