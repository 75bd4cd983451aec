import Mathlib.Data.List.Nodup
import Mathlib.Data.List.Sort
import WebCompat.KeyMap
import WebCompat.Proofs.Distinct

/-!
Maps as functions of their keys: what a map answers after an entry is put into it, and what the
map of a list of entries answers. Maps with the same answers are equal, so that the order does not
matter in which entries with different keys are put into a map.
-/

namespace WebCompat.KeyMap

variable {α : Type}

/-- Putting an entry into its place decides about its own key and no other. -/
theorem lookup_insertEntry (key : String) (value : α) (entries : List (String × α))
    (asked : String) :
    (insertEntry key value entries).lookup asked =
      if asked = key then some value else entries.lookup asked := by
  induction entries with
  | nil => exact lookup_cons_eq_ite key value [] asked
  | cons entry entries inductionHypothesis =>
      obtain ⟨other, kept⟩ := entry
      unfold insertEntry
      split
      · exact lookup_cons_eq_ite key value ((other, kept) :: entries) asked
      · rename_i notLess
        rw [lookup_cons_eq_ite other kept]
        split
        · rename_i greater
          rw [lookup_cons_eq_ite, inductionHypothesis]
          by_cases isOther : asked = other
          · have different : asked ≠ key := by
              intro same
              rw [← same, ← isOther] at greater
              exact String.lt_irrefl asked greater
            rw [if_pos isOther, if_neg different, if_pos isOther]
          · rw [if_neg isOther, if_neg isOther]
        · rename_i notGreater
          have same : key = other :=
            String.le_antisymm (String.not_lt.mp notGreater) (String.not_lt.mp notLess)
          rw [lookup_cons_eq_ite, same]
          split <;> rfl

theorem get?_insert (map : KeyMap α) (key : String) (value : α) (asked : String) :
    (map.insert key value).get? asked = if asked = key then some value else map.get? asked :=
  lookup_insertEntry key value map.entries asked

/-- The map of entries that are made from their keys. -/
theorem get?_ofList_map (value : String → α) (keys : List String) (asked : String) :
    (ofList (keys.map fun key => (key, value key))).get? asked =
      if asked ∈ keys then some (value asked) else none := by
  -- The entries are put into a map that need not be empty.
  have filled : ∀ (map : KeyMap α),
      ((keys.map fun key => (key, value key)).foldl
          (fun map entry => map.insert entry.1 entry.2) map).get? asked =
        if asked ∈ keys then some (value asked) else map.get? asked := by
    induction keys with
    | nil => intro map; rfl
    | cons key keys inductionHypothesis =>
        intro map
        rw [List.map_cons, List.foldl_cons, inductionHypothesis, get?_insert]
        by_cases later : asked ∈ keys
        · simp [later]
        · by_cases isKey : asked = key
          · simp [isKey]
          · simp [later, isKey]
  exact filled empty

/-! ## Maps with the same answers -/

theorem nodup_keys (map : KeyMap α) : (map.entries.map Prod.fst).Nodup := by
  apply map.sorted.imp
  intro key other less same
  rw [same] at less
  exact String.lt_irrefl other less

/-- An entry of a map is a key with its value. -/
theorem mem_entries_iff {map : KeyMap α} {entry : String × α} :
    entry ∈ map.entries ↔ map.get? entry.1 = some entry.2 := by
  constructor
  · exact lookup_of_mem map.nodup_keys
  · intro isValue
    obtain ⟨front, back, split, _⟩ := List.lookup_eq_some_iff.mp isValue
    simp [split]

/-- A map is told by the values of all keys. -/
theorem ext_get? {map other : KeyMap α} (same : ∀ key, map.get? key = other.get? key) :
    map = other := by
  have sameEntries : map.entries = other.entries := by
    refine List.Perm.eq_of_pairwise ?asymm (List.pairwise_map.mp map.sorted)
      (List.pairwise_map.mp other.sorted) ?perm
    case asymm =>
      intro entry next _ _ less greater
      exact absurd greater (String.lt_asymm less)
    case perm =>
      rw [List.perm_ext_iff_of_nodup (.of_map _ map.nodup_keys) (.of_map _ other.nodup_keys)]
      intro entry
      rw [mem_entries_iff, mem_entries_iff, same]
  cases map
  cases other
  cases sameEntries
  rfl

/-- Entries with different keys can be put into a map in either order. -/
theorem insert_comm (map : KeyMap α) {key other : String} (different : key ≠ other)
    (value otherValue : α) :
    (map.insert key value).insert other otherValue =
      (map.insert other otherValue).insert key value := by
  apply ext_get?
  intro asked
  simp only [get?_insert]
  by_cases isKey : asked = key
  · have notOther : asked ≠ other := isKey ▸ different
    rw [if_neg notOther, if_pos isKey, if_pos isKey]
  · rw [if_neg isKey, if_neg isKey]

/-- **The order of entries with distinct keys does not matter to their map.** -/
theorem ofList_eq_of_perm {entries others : List (String × α)}
    (distinct : (entries.map Prod.fst).Nodup) (perm : entries.Perm others) :
    ofList entries = ofList others := by
  apply perm.foldl_eq'
  intro entry isEntry other isOther map
  by_cases same : entry.1 = other.1
  · rw [List.inj_on_of_nodup_map distinct isEntry isOther same]
  · exact insert_comm map same entry.2 other.2

theorem get?_ofList_of_nodup {entries : List (String × α)}
    (distinct : (entries.map Prod.fst).Nodup) (asked : String) :
    (ofList entries).get? asked = entries.lookup asked := by
  have filled : ∀ (map : KeyMap α),
      (entries.foldl (fun map entry => map.insert entry.1 entry.2) map).get? asked =
        (entries.lookup asked).or (map.get? asked) := by
    induction entries with
    | nil => intro map; rfl
    | cons entry entries inductionHypothesis =>
        intro map
        rw [List.map_cons, List.nodup_cons] at distinct
        rw [List.foldl_cons, inductionHypothesis distinct.2, get?_insert, lookup_cons_eq_ite]
        by_cases isKey : asked = entry.1
        · have notLater : entries.lookup asked = none := by
            rw [List.lookup_eq_none_iff]
            intro other isOther
            have different : asked ≠ other.1 := by
              intro same
              apply distinct.1
              rw [← isKey, same]
              exact List.mem_map_of_mem isOther
            simpa using different
          rw [notLater, if_pos isKey, if_pos isKey]
          rfl
        · rw [if_neg isKey, if_neg isKey]
  rw [ofList, filled empty]
  exact Option.or_none

/-- A map is the map of its entries. -/
theorem ofList_entries (map : KeyMap α) : ofList map.entries = map :=
  ext_get? (get?_ofList_of_nodup map.nodup_keys)

end WebCompat.KeyMap
