/-!
Finite maps from strings, kept in the order of their keys. Two maps with the same keys and
values are equal, whatever the order in which they were filled.
-/

namespace WebCompat

/-- A map from strings: its entries by increasing key. -/
structure KeyMap (α : Type) where
  entries : List (String × α)
  sorted : (entries.map Prod.fst).Pairwise (· < ·)

namespace KeyMap

variable {α β : Type}

def empty : KeyMap α :=
  ⟨[], List.Pairwise.nil⟩

instance : Inhabited (KeyMap α) :=
  ⟨empty⟩

/-- Puts an entry into its place, over the one with the same key if there is one. -/
def insertEntry (key : String) (value : α) : List (String × α) → List (String × α)
  | [] => [(key, value)]
  | (other, kept) :: entries =>
      if key < other then (key, value) :: (other, kept) :: entries
      else if other < key then (other, kept) :: insertEntry key value entries
      else (key, value) :: entries

private theorem key_of_mem_insertEntry {key : String} {value : α} {entries : List (String × α)}
    {found : String} (member : found ∈ (insertEntry key value entries).map Prod.fst) :
    found = key ∨ found ∈ entries.map Prod.fst := by
  induction entries with
  | nil => simpa [insertEntry] using member
  | cons entry entries inductionHypothesis =>
    obtain ⟨other, kept⟩ := entry
    unfold insertEntry at member
    split at member
    · simpa using member
    · split at member
      · simp only [List.map_cons, List.mem_cons] at member ⊢
        rcases member with isOther | later
        · exact .inr (.inl isOther)
        · rcases inductionHypothesis later with isKey | before
          · exact .inl isKey
          · exact .inr (.inr before)
      · simp only [List.map_cons, List.mem_cons] at member ⊢
        rcases member with isKey | later
        · exact .inl isKey
        · exact .inr (.inr later)

theorem insertEntry_sorted (key : String) (value : α) (entries : List (String × α))
    (sorted : (entries.map Prod.fst).Pairwise (· < ·)) :
    ((insertEntry key value entries).map Prod.fst).Pairwise (· < ·) := by
  induction entries with
  | nil => simp [insertEntry]
  | cons entry entries inductionHypothesis =>
    obtain ⟨other, kept⟩ := entry
    simp only [List.map_cons, List.pairwise_cons] at sorted
    unfold insertEntry
    split
    · rename_i less
      simp only [List.map_cons, List.pairwise_cons, List.mem_cons]
      refine ⟨?_, sorted⟩
      rintro found (isOther | later)
      · exact isOther ▸ less
      · exact String.lt_trans less (sorted.1 found later)
    · rename_i notLess
      split
      · rename_i greater
        simp only [List.map_cons, List.pairwise_cons]
        refine ⟨?_, inductionHypothesis sorted.2⟩
        intro found member
        rcases key_of_mem_insertEntry member with isKey | before
        · exact isKey ▸ greater
        · exact sorted.1 found before
      · rename_i notGreater
        have same : key = other :=
          String.le_antisymm (String.not_lt.mp notGreater) (String.not_lt.mp notLess)
        simp only [List.map_cons, List.pairwise_cons]
        exact ⟨fun found later => same ▸ sorted.1 found later, sorted.2⟩

/-- The map with an entry added, or replaced if the key is in use. -/
def insert (map : KeyMap α) (key : String) (value : α) : KeyMap α :=
  ⟨insertEntry key value map.entries, insertEntry_sorted key value map.entries map.sorted⟩

/-- The map of a list of entries; of two with the same key the later one stays. -/
def ofList (entries : List (String × α)) : KeyMap α :=
  entries.foldl (fun map entry => map.insert entry.1 entry.2) empty

def get? (map : KeyMap α) (key : String) : Option α :=
  map.entries.lookup key

def contains (map : KeyMap α) (key : String) : Bool :=
  (map.get? key).isSome

end KeyMap

end WebCompat
