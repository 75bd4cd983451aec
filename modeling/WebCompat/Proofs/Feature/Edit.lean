import Mathlib.Logic.Relation
import WebCompat.Proofs.Feature.Response
import WebCompat.Proofs.Json.Edit
import WebCompat.Proofs.Json.Printer

/-!
Edits of answers that do not change their records: members that no structure knows, members in
another order, and browsers in another order, in any of the structures of an answer.

Owns: the edits of the parts of an answer; and that an answer that is edited as often as one likes,
and written with any white space, has the same records.
-/

namespace WebCompat.Response

open Json (ListEdit Piece TableEdit Tree spelled)

/-! ## Edits of the parts -/

/-- One edit of an implementation: of its members only. -/
def ImplementationEdit : Tree → Tree → Prop :=
  implementationSchema.Edit fun _ _ _ => False

/-- One edit of a baseline: of its members only. -/
def BaselineEdit : Tree → Tree → Prop :=
  baselineSchema.Edit fun _ _ _ => False

/-- One edit of the value of a field of a candidate. -/
def EntryFieldEdit (name : String) (old new : Tree) : Prop :=
  (name = "baseline" ∧ BaselineEdit old new) ∨
    (name = "browser_implementations" ∧ TableEdit ImplementationEdit old new)

/-- One edit of a candidate: of its members, of its baseline or of its browsers. -/
def EntryEdit : Tree → Tree → Prop :=
  entrySchema.Edit EntryFieldEdit

/-- One edit of the value of a field of an answer. -/
def AnswerFieldEdit (name : String) (old new : Tree) : Prop :=
  name = "data" ∧ ListEdit EntryEdit old new

/-- One edit of an answer: of its members or of a candidate. -/
def AnswerEdit : Tree → Tree → Prop :=
  schema.Edit AnswerFieldEdit

/-! ## What the edited parts mean -/

section Meanings

variable {tree other : Tree}

theorem ImplementationEdit.ofTree_eq (edit : ImplementationEdit tree other) :
    implementationSchema.ofTree tree = implementationSchema.ofTree other :=
  Json.Schema.Edit.ofTree_eq implementationSchema_isLawful (fun _ _ _ _ => False.elim) edit

theorem BaselineEdit.ofTree_eq (edit : BaselineEdit tree other) :
    baselineSchema.ofTree tree = baselineSchema.ofTree other :=
  Json.Schema.Edit.ofTree_eq baselineSchema_isLawful (fun _ _ _ _ => False.elim) edit

/-- A candidate stays the same under an edit of its parts. -/
theorem EntryEdit.ofTree_eq (edit : EntryEdit tree other) :
    entrySchema.ofTree tree = entrySchema.ofTree other := by
  have lawful := entrySchema_isLawful
  apply Json.Schema.Edit.ofTree_eq lawful _ edit
  -- The names of the fields are different, so that the name tells which field is edited.
  rintro field isField old new (⟨isName, edit⟩ | ⟨isName, edit⟩)
  · cases List.inj_on_of_nodup_map lawful.distinct isField (.tail _ (.tail _ (.head _))) isName
    have reads := Json.optional_reads baselineSchema_reads
    rw [field_on reads, field_on reads, Json.Schema.Edit.optional?_eq edit edit.ofTree_eq]
  · cases List.inj_on_of_nodup_map lawful.distinct isField (.tail _ (.tail _ (.tail _ (.head _))))
      isName
    have reads := Json.map_reads (Json.table_reads implementationSchema_reads) KeyMap.ofList
    rw [field_on reads, field_on reads,
      edit.keyMap_eq fun _ _ inner => ImplementationEdit.ofTree_eq inner]

/-- An answer keeps its candidates under an edit of its parts. -/
theorem AnswerEdit.ofTree_eq (edit : AnswerEdit tree other) :
    schema.ofTree tree = schema.ofTree other := by
  have lawful := schema_isLawful
  apply Json.Schema.Edit.ofTree_eq lawful _ edit
  rintro field isField old new ⟨isName, edit⟩
  cases List.inj_on_of_nodup_map lawful.distinct isField (.head _) isName
  have reads := Json.list_reads entrySchema_reads
  rw [field_on reads, field_on reads, edit.list?_eq fun _ _ inner => EntryEdit.ofTree_eq inner]

/-- However often an answer is edited, it means the same records. -/
theorem recordsOf_eq_of_edits (edits : Relation.ReflTransGen AnswerEdit tree other) :
    recordsOf tree = recordsOf other := by
  induction edits with
  | refl => rfl
  | tail _ edit inductionHypothesis =>
      rw [inductionHypothesis, recordsOf, recordsOf, edit.ofTree_eq]

end Meanings

/-! ## Edited answers -/

/-- **Edits do not change the records of an answer.** A body that decodes is a document of one tree,
and every document of a tree to which edits lead decodes to the same records: the white space may be
any, members that a structure does not know may stand anywhere with any value, and the members of
structures and tables may be in any order. -/
theorem edited_has_same_records {body : String} {found : List Record}
    (decodes : records body = .ok found) :
    ∃ tree : Tree, tree.IsDocument body ∧ (∀ other : Tree, other.IsDocument body → other = tree) ∧
      ∀ (editedTree : Tree) (edited : String), Relation.ReflTransGen AnswerEdit tree editedTree →
        editedTree.IsDocument edited → records edited = .ok found := by
  obtain ⟨tree, isDocument, means⟩ := exists_of_records decodes
  refine ⟨tree, isDocument, fun other alsoDocument =>
    Tree.eq_of_isDocument alsoDocument isDocument, ?_⟩
  intro editedTree edited edits isEdited
  rw [records_eq_ok_iff isEdited, ← recordsOf_eq_of_edits edits, means]

/-- An answer whose only candidate has the given members. -/
def answerWith (members : List (List Piece × Tree)) : Tree :=
  .object [(spelled "data", .list [.object members])]

private theorem answerEdit_of_members {members others : List (List Piece × Tree)}
    (edit : EntryEdit (.object members) (.object others)) :
    AnswerEdit (answerWith members) (answerWith others) :=
  .inMember [] [] (Json.string?_spelled "data") ⟨rfl, .inItem [] [] edit⟩

/-- An answer with a single candidate. -/
def plainAnswer : String :=
  "\x7b\"data\":[\x7b\"name\":\"Grid\",\"feature_id\":\"grid\"\x7d]\x7d"

/-- The same answer with the members of the candidate swapped and another member between them. -/
def editedAnswer : String :=
  "\x7b \"data\": [\n\x7b\"feature_id\":\"grid\",\"usage\":[null],\"name\":\"Grid\"\x7d] \x7d"

theorem edited_grid_has_same_records :
    records plainAnswer = .ok [⟨"Grid", "grid", .unknown, none, none, .empty⟩] ∧
      records editedAnswer = .ok [⟨"Grid", "grid", .unknown, none, none, .empty⟩] := by
  have decodes : records plainAnswer = .ok [⟨"Grid", "grid", .unknown, none, none, .empty⟩] :=
    records_eq_ok_of_toOption (by decide +kernel)
  obtain ⟨tree, _, unique, edited⟩ := edited_has_same_records decodes
  let name : List Piece × Tree := (spelled "name", .text (spelled "Grid"))
  let featureId : List Piece × Tree := (spelled "feature_id", .text (spelled "grid"))
  let usage : List Piece × Tree := (spelled "usage", .list [.null])
  have isTree : answerWith [name, featureId] = tree := unique _ (by decide +kernel)
  have swapped : AnswerEdit (answerWith [name, featureId]) (answerWith [featureId, name]) :=
    answerEdit_of_members (.permuted (.swap featureId name []))
  have added : AnswerEdit (answerWith [featureId, name]) (answerWith [featureId, usage, name]) :=
    answerEdit_of_members
      (.added [featureId] [name] (.list [.null]) (Json.string?_spelled "usage") (by decide))
  rw [isTree] at swapped
  exact ⟨decodes, edited _ _ (.tail (.single swapped) added) (by decide +kernel)⟩

end WebCompat.Response
