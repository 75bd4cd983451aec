import WebCompat.Token.Kind

/-!
Token sets: the distinct normal forms of one category, in order of first occurrence.
Two sets are equal when their categories and their items in order are equal.
-/

namespace WebCompat

/-- Distinct token texts of one category, in order of first insertion. -/
structure TokenSet where
  kind : TokenKind
  items : List String
  nodup : items.Nodup
deriving DecidableEq, Repr

namespace TokenSet

def empty (kind : TokenKind) : TokenSet :=
  ⟨kind, [], List.nodup_nil⟩

/-- Whether the normal form of a raw text is an item. -/
def contains (set : TokenSet) (raw : String) : Bool :=
  set.items.contains (set.kind.normalize raw)

/-- Adds the normal form of a raw text at the end, unless it is already an item. -/
def insert (set : TokenSet) (raw : String) : TokenSet :=
  if fresh : set.kind.normalize raw ∈ set.items then set
  else
    { set with
      items := set.items ++ [set.kind.normalize raw]
      nodup := by
        rw [List.nodup_append]
        refine ⟨set.nodup, by simp, ?_⟩
        intro item member other isNew equal
        rw [List.mem_singleton] at isNew
        subst equal isNew
        exact fresh member }

/-- Adds the normal form of a raw text, and answers whether it was not an item before. -/
def add (set : TokenSet) (raw : String) : Bool × TokenSet :=
  (!set.contains raw, set.insert raw)

/-- The set of a sequence of raw texts. -/
def ofList (kind : TokenKind) (raws : List String) : TokenSet :=
  raws.foldl insert (empty kind)

def size (set : TokenSet) : Nat :=
  set.items.length

def isEmpty (set : TokenSet) : Bool :=
  set.items.isEmpty

def tokens (set : TokenSet) : List Token :=
  set.items.map (Token.mk set.kind)

@[simp] theorem kind_insert (set : TokenSet) (raw : String) :
    (set.insert raw).kind = set.kind := by
  unfold insert
  split <;> rfl

/-- Inserting appends the normal form exactly when it is new. -/
theorem items_insert (set : TokenSet) (raw : String) :
    (set.insert raw).items =
      if set.kind.normalize raw ∈ set.items then set.items
      else set.items ++ [set.kind.normalize raw] := by
  unfold insert
  split <;> rfl

end TokenSet

end WebCompat
