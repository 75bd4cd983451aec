/-!
Distinct members of a list in the order of their first occurrence, and lists of entries whose
keys are distinct. Dropping repetitions commutes with every filter, so that what is said of one
member does not depend on the others.
-/

namespace WebCompat

section Distinct

variable {α : Type} [BEq α] [LawfulBEq α]

/-- Dropping the members that fail a test and dropping repetitions can be done in either
order. -/
theorem filter_eraseDups (test : α → Bool) :
    ∀ members : List α, members.eraseDups.filter test = (members.filter test).eraseDups
  | [] => rfl
  | member :: members => by
      have shorter : (members.filter fun other => !other == member).length < members.length + 1 :=
        Nat.lt_succ_of_le (List.length_filter_le _ members)
      rw [List.eraseDups_cons, List.filter_cons, List.filter_cons]
      rw [filter_eraseDups test (members.filter fun other => !other == member)]
      split
      · rw [List.eraseDups_cons, List.filter_filter, List.filter_filter]
        simp only [Bool.and_comm]
      · rename_i rejected
        rw [List.filter_filter]
        congr 1
        apply List.filter_congr
        intro other _
        by_cases same : other = member
        · subst same
          simp [rejected]
        · simp [same]
termination_by members => members.length

theorem nodup_eraseDups : ∀ members : List α, members.eraseDups.Nodup
  | [] => List.nodup_nil
  | member :: members => by
      have shorter : (members.filter fun other => !other == member).length < members.length + 1 :=
        Nat.lt_succ_of_le (List.length_filter_le _ members)
      rw [List.eraseDups_cons, List.nodup_cons]
      refine ⟨?_, nodup_eraseDups (members.filter fun other => !other == member)⟩
      simp [List.mem_eraseDups]
termination_by members => members.length

theorem eraseDups_of_nodup {members : List α} (distinct : members.Nodup) :
    members.eraseDups = members := by
  induction members with
  | nil => rfl
  | cons member members inductionHypothesis =>
      rw [List.nodup_cons] at distinct
      have others : (members.filter fun other => !other == member) = members := by
        rw [List.filter_eq_self]
        intro other isMember
        have different : other ≠ member := fun same => distinct.1 (same ▸ isMember)
        simp [different]
      rw [List.eraseDups_cons, others, inductionHypothesis distinct.2]

/-- The distinct members equal to a given one: at most itself. -/
theorem filter_beq_eraseDups (member : α) (members : List α) :
    members.eraseDups.filter (· == member) = if member ∈ members then [member] else [] := by
  rw [List.filter_beq, (nodup_eraseDups members).count]
  simp only [List.mem_eraseDups]
  split <;> rfl

/-- A member for which there is nothing can be left out of a list of lists. -/
theorem flatMap_filter_of_nil {β : Type} {lists : α → List β} {member : α}
    (nothing : lists member = []) (members : List α) :
    (members.filter (· != member)).flatMap lists = members.flatMap lists := by
  induction members with
  | nil => rfl
  | cons first members inductionHypothesis =>
      rw [List.flatMap_cons, ← inductionHypothesis]
      by_cases same : first = member
      · rw [List.filter_cons_of_neg (by simp [same]), same, nothing, List.nil_append]
      · rw [List.filter_cons_of_pos (by simpa using same), List.flatMap_cons]

/-- A member at the end stays only if it is not there before. -/
theorem eraseDups_concat (members : List α) (member : α) :
    (members ++ [member]).eraseDups =
      if member ∈ members then members.eraseDups else members.eraseDups ++ [member] := by
  rw [List.eraseDups_append]
  by_cases isKnown : member ∈ members
  · simp [List.removeAll, isKnown]
  · simp [List.removeAll, List.eraseDups_cons, isKnown]

/-- Two lists with the same members have the same distinct members, up to order. -/
theorem eraseDups_perm_of_mem_iff {left right : List α}
    (sameMembers : ∀ member, member ∈ left ↔ member ∈ right) :
    left.eraseDups.Perm right.eraseDups := by
  rw [List.perm_ext_iff_of_nodup (nodup_eraseDups left) (nodup_eraseDups right)]
  intro member
  rw [List.mem_eraseDups, List.mem_eraseDups, sameMembers]

end Distinct

/-! ## Entries by key -/

section Keyed

variable {α β : Type} [BEq α] [LawfulBEq α] [DecidableEq α]

theorem lookup_cons_eq_ite (key : α) (value : β) (entries : List (α × β)) (asked : α) :
    ((key, value) :: entries).lookup asked =
      if asked = key then some value else entries.lookup asked := by
  rw [List.lookup_cons]
  by_cases same : asked = key
  · rw [if_pos same, beq_iff_eq.mpr same]
  · rw [if_neg same, beq_false_of_ne same]

/-- Entries made from their keys are found under their keys, and nothing is found elsewhere. -/
theorem lookup_map_key (value : α → β) (keys : List α) (key : α) :
    (keys.map fun key => (key, value key)).lookup key =
      if key ∈ keys then some (value key) else none := by
  induction keys with
  | nil => rfl
  | cons first keys inductionHypothesis =>
      rw [List.map_cons, lookup_cons_eq_ite, inductionHypothesis]
      by_cases same : key = first
      · simp [same]
      · simp [same]

/-- Among entries with distinct keys, each is found under its key. -/
theorem lookup_of_mem {entries : List (α × β)} (distinct : (entries.map Prod.fst).Nodup)
    {entry : α × β} (member : entry ∈ entries) : entries.lookup entry.1 = some entry.2 := by
  induction entries with
  | nil => exact absurd member List.not_mem_nil
  | cons first entries inductionHypothesis =>
      rw [List.map_cons, List.nodup_cons] at distinct
      rw [lookup_cons_eq_ite]
      rcases List.mem_cons.mp member with isFirst | later
      · rw [isFirst, if_pos rfl]
      · have different : entry.1 ≠ first.1 := by
          intro same
          apply distinct.1
          rw [← same]
          exact List.mem_map_of_mem later
        rw [if_neg different]
        exact inductionHypothesis distinct.2 later

end Keyed

end WebCompat
