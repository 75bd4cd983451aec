import WebCompat.Feature.Record

/-!
Batches: the outcome of looking up several tokens, each of them once.
-/

namespace WebCompat

/-- The record found for each of several distinct tokens, in the order of the lookups, and
how many of the lookups failed. A token without a record was not found, or its lookup
failed. -/
structure Batch where
  entries : List (String × Option Record)
  failed : Nat
  distinct : (entries.map Prod.fst).Nodup

namespace Batch

def empty : Batch :=
  ⟨[], 0, List.nodup_nil⟩

def tokens (batch : Batch) : List String :=
  batch.entries.map Prod.fst

def contains (batch : Batch) (token : String) : Bool :=
  batch.tokens.contains token

/-- The record of a token, if one was found. -/
def get? (batch : Batch) (token : String) : Option Record :=
  (batch.entries.lookup token).join

def size (batch : Batch) : Nat :=
  batch.entries.length

/-- Adds the outcome for a token that was not looked up before. -/
def add (batch : Batch) (token : String) (outcome : Option (Option Record))
    (fresh : token ∉ batch.tokens) : Batch where
  entries := batch.entries ++ [(token, outcome.join)]
  failed := batch.failed + (if outcome.isNone then 1 else 0)
  distinct := by
    rw [List.map_append, List.nodup_append]
    refine ⟨batch.distinct, by simp, ?_⟩
    intro known member other isNew equal
    simp only [List.map_cons, List.map_nil, List.mem_singleton] at isNew
    subst equal isNew
    exact fresh member

/-- A batch as a value: the records by token. -/
def toValue (batch : Batch) : Json.Value :=
  .object (batch.entries.map fun entry => (entry.1, Json.Value.ofOption Record.toValue entry.2))

end Batch

end WebCompat
