/-!
Case mappings that send one code point to one code point, tabulated as runs: within a
run every `stride`-th code point is mapped, and all by the same distance.
-/

namespace WebCompat.Text

/-- The code points `first`, `first + stride`, …, `last`, of which `first` is sent to
`target` and the others by the same distance. -/
structure CaseRow where
  first : Nat
  last : Nat
  stride : Nat
  target : Nat
deriving DecidableEq, Repr

/-- The image of a code point under rows in ascending order, if one of them maps it. -/
def CaseRow.image? : List CaseRow → Nat → Option Nat
  | [], _ => none
  | row :: rest, n =>
      if n < row.first then none
      else if n ≤ row.last && (n - row.first) % row.stride == 0 then
        some (row.target + (n - row.first))
      else CaseRow.image? rest n

end WebCompat.Text
