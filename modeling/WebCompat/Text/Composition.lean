import WebCompat.Text.Composition.Order
import WebCompat.Text.Composition.Table

/-!
The composed form of a text, in which every character that is one with a sequence of others
stands for itself: the text is taken apart, marks are put in order, and what can be put
together is put together.
-/

namespace WebCompat.Text

/-! ## What characters consist of -/

/-- A character that is one with another and a mark behind it. -/
structure Composite where
  whole : Char
  base : Char
  mark : Char
deriving DecidableEq, Repr

/-- The composites of a row: each base is followed by the whole. -/
def compositesOfRow (mark : Char) : List Char → List Composite
  | base :: whole :: rest => ⟨whole, base, mark⟩ :: compositesOfRow mark rest
  | _ => []

/-- The composites of several rows. -/
def compositesOfRows (rows : List (Nat × String)) : List Composite :=
  rows.flatMap fun row => compositesOfRow (Char.ofNat row.1) row.2.toList

/-- The composites that are put together. -/
def joinedComposites : List Composite :=
  compositesOfRows compositeRows

/-- The composites that are taken apart only. -/
def separateComposites : List Composite :=
  compositesOfRows separateRows

/-- What a code point is sent to by runs of code points, which are given by the first of them
and the images of all. -/
def runImage? (rows : List (Nat × String)) (n : Nat) : Option Char :=
  rows.findSome? fun row => if row.1 ≤ n then row.2.toList[n - row.1]? else none

/-- The base and the mark that a character consists of. -/
def parts? (c : Char) : Option (Char × Char) :=
  ((joinedComposites ++ separateComposites).find? fun composite => composite.whole == c).map
    fun composite => (composite.base, composite.mark)

/-- The character that stands for a base and a mark. -/
def whole? (base mark : Char) : Option Char :=
  (joinedComposites.find? fun composite => composite.base == base && composite.mark == mark).map
    Composite.whole

/-! ## Hangul syllables -/

/-- The first syllable. A syllable is a leading consonant, a vowel, and perhaps a trailing
consonant; all that there are come in this order. -/
def firstSyllable : Nat := 0xAC00

/-- One before the first trailing consonant. -/
def noTrailing : Nat := 0x11A7

/-- Whether there is a syllable with the given number. -/
def isSyllable (n : Nat) : Bool :=
  firstSyllable ≤ n && n < firstSyllable + 19 * 21 * 28

/-- The letters of a syllable. -/
def lettersOfSyllable (n : Nat) : List Char :=
  let index := n - firstSyllable
  let open_ := [Char.ofNat (0x1100 + index / 588), Char.ofNat (0x1161 + index % 588 / 28)]
  if index % 28 = 0 then open_ else open_ ++ [Char.ofNat (noTrailing + index % 28)]

/-- The syllable of two letters, or of a syllable without a trailing consonant and one. -/
def syllable? (first second : Nat) : Option Char :=
  if 0x1100 ≤ first ∧ first < 0x1113 ∧ 0x1161 ≤ second ∧ second < 0x1176 then
    some (Char.ofNat (firstSyllable + ((first - 0x1100) * 21 + (second - 0x1161)) * 28))
  else if isSyllable first ∧ (first - firstSyllable) % 28 = 0 ∧ noTrailing < second
      ∧ second < 0x11C3 then
    some (Char.ofNat (first + (second - noTrailing)))
  else none

/-! ## Taking apart -/

/-- The characters that a character consists of; a base is taken apart as often as `depth`
says. -/
def takenApart : (depth : Nat) → Char → List Char
  | 0, c => [c]
  | depth + 1, c =>
      match runImage? variantRows c.toNat with
      | some other => takenApart depth other
      | none =>
          if isSyllable c.toNat then lettersOfSyllable c.toNat
          else
            match parts? c with
            | some (base, mark) => takenApart depth base ++ [mark]
            | none => [c]

/-- More than the number of steps that a character can be taken apart in. -/
def deepestComposite : Nat := 6

/-- The class of a character, by which marks are ordered. -/
def markClass (c : Char) : Nat :=
  ((classRows.find? fun row => row.2.contains c.toNat).map Prod.fst).getD 0

/-- Puts a character in front of characters in order: it goes behind the marks of a lower
class. -/
def place (c : Char) : List Char → List Char
  | [] => [c]
  | d :: rest =>
      if 0 < markClass d ∧ markClass d < markClass c then d :: place c rest else c :: d :: rest

/-- A text taken apart, with its marks in order. -/
def decomposed (text : List Char) : List Char :=
  (text.flatMap fun c =>
    if c.toNat < 0x80 then [c] else takenApart deepestComposite c).foldr place []

/-! ## Putting together -/

/-- The character that stands for two. -/
def joined? (first second : Char) : Option Char :=
  if second.toNat < 0x80 then none
  else
    match syllable? first.toNat second.toNat with
    | some whole => some whole
    | none => whole? first second

/-- Goes on behind a character that others can join. Those that could not are given backwards;
one of them keeps away what is not of a higher class. -/
def joinedBehind (first : Char) (between : List Char) : List Char → List Char
  | [] => first :: between.reverse
  | c :: rest =>
      let isKeptAway := between.head?.any fun last => markClass c ≤ markClass last
      match if isKeptAway then none else joined? first c with
      | some whole => joinedBehind whole between rest
      | none =>
          if markClass c = 0 then first :: between.reverse ++ joinedBehind c [] rest
          else joinedBehind first (c :: between) rest

/-- Goes on where nothing can be joined to: marks without a base stay as they are. -/
def joinedFrom : List Char → List Char
  | [] => []
  | c :: rest => if markClass c = 0 then joinedBehind c [] rest else c :: joinedFrom rest

/-- The composed form of a text. -/
def composed (text : List Char) : List Char :=
  if text.all fun c => c.toNat < 0x80 then text else joinedFrom (decomposed text)

end WebCompat.Text
